import TokenRotation.Time

/-!
# Durations in words

The length of a duration is written in the greatest unit that it fills: the number of whole units,
and behind a point the decimals of a further one, as far as they are not zeros to the end.

* `nanos_eq_pow` -- a unit has as many decimals as its nanoseconds have zeros.
-/

namespace TokenRotation

/-! ## 1. Units -/

/-- A unit of a length of time. -/
inductive TimeUnit
  | second
  | millisecond
  | microsecond
  | nanosecond
deriving DecidableEq, Repr

namespace TimeUnit

/-- The sign of a unit; the small one among thousands is the micro sign. -/
def symbol : TimeUnit → String
  | .second => "s"
  | .millisecond => "ms"
  | .microsecond => "\u00b5s"
  | .nanosecond => "ns"

/-- How many decimals of a unit count nanoseconds. -/
def places : TimeUnit → Nat
  | .second => 9
  | .millisecond => 6
  | .microsecond => 3
  | .nanosecond => 0

/-- The nanoseconds of a unit. -/
def nanos : TimeUnit → Nat
  | .second => 1000000000
  | .millisecond => 1000000
  | .microsecond => 1000
  | .nanosecond => 1

theorem nanos_eq_pow (u : TimeUnit) : u.nanos = Nat.pow 10 u.places := by
  cases u <;> rfl

end TimeUnit

/-! ## 2. The written form -/

namespace Duration

/-- The greatest unit that some nanoseconds fill; less than one of them is told in nanoseconds. -/
def unitOf (n : Nat) : TimeUnit :=
  if TimeUnit.second.nanos ≤ n then .second
  else if TimeUnit.millisecond.nanos ≤ n then .millisecond
  else if TimeUnit.microsecond.nanos ≤ n then .microsecond
  else .nanosecond

/-- A number below a power of ten as that many decimals, without the zeros at their end. -/
def decimals (places n : Nat) : List Char :=
  let digits := Nat.toDigits 10 n
  let all := List.replicate (places - digits.length) '0' ++ digits
  (all.reverse.dropWhile (· = '0')).reverse

/-- So many nanoseconds in their greatest unit. -/
def nanosText (n : Nat) : String :=
  let u := unitOf n
  let part := decimals u.places (n % u.nanos)
  let fraction := if part.isEmpty then "" else "." ++ String.ofList part
  toString (n / u.nanos) ++ fraction ++ u.symbol

/-- The length of a duration, whichever its direction. -/
def lengthText (d : Duration) : String := nanosText d.nanos.natAbs

end Duration

end TokenRotation
