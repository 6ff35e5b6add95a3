import TokenRotation.Json.Text

/-!
# Numbers of a JSON text

A number is whole digits without a needless zero, a fraction, and a power of ten. A reader that has
to know its value keeps the first digits up to 64 bits as a whole number and counts the places of
the rest; the number is too large when the double nearest to those digits, times the double nearest
to that power of ten, lies beyond the greatest double.
-/

namespace TokenRotation.Json

/-- The parts of a number behind its sign. -/
structure Number where
  whole : List UInt8
  fraction : List UInt8
  /-- The power of ten is a negative one. -/
  small : Bool
  power : List UInt8
deriving DecidableEq, Repr

namespace Number

/-! ## 1. The written form -/

/-- The byte is a decimal digit. -/
def isDigit (b : UInt8) : Bool := 0x30 ≤ b && b ≤ 0x39

/-- The value of a decimal digit. -/
def digit (b : UInt8) : Nat := b.toNat - 0x30

/-- The digits at the front, and the text behind them. -/
def digits (bytes : List UInt8) : List UInt8 × List UInt8 :=
  (bytes.takeWhile isDigit, bytes.dropWhile isDigit)

/-- Reads a fraction, where there is one. -/
def fraction? : List UInt8 → Option (List UInt8 × List UInt8)
  | 0x2e :: rest =>
    let (read, rest) := digits rest
    if read.isEmpty then none else some (read, rest)
  | rest => some ([], rest)

/-- Reads the digits of a power of ten behind its sign. -/
def powerDigits? (small : Bool) (bytes : List UInt8) : Option (Bool × List UInt8 × List UInt8) :=
  let (read, rest) := digits bytes
  if read.isEmpty then none else some (small, read, rest)

/-- Reads a power of ten, where there is one. -/
def power? : List UInt8 → Option (Bool × List UInt8 × List UInt8)
  | b :: rest =>
    if b = 0x65 ∨ b = 0x45 then
      match rest with
      | 0x2b :: rest => powerDigits? false rest
      | 0x2d :: rest => powerDigits? true rest
      | rest => powerDigits? false rest
    else some (false, [], b :: rest)
  | [] => some (false, [], [])

/-- Reads a number behind its sign, and what follows it. -/
def read? (bytes : List UInt8) : Option (Number × List UInt8) :=
  let (whole, rest) := digits bytes
  if whole.isEmpty || (whole.head? = some 0x30 && whole.length ≠ 1) then none
  else
    match fraction? rest with
    | none => none
    | some (fraction, rest) =>
      match power? rest with
      | none => none
      | some (small, power, rest) => some (⟨whole, fraction, small, power⟩, rest)

/-! ## 2. The magnitude -/

/-- The greatest number of 64 bits. -/
def greatestSignificand : Nat := 18446744073709551615

/-- Appends whole digits while 64 bits hold them, and counts the places from there on. -/
def appendWhole : (significand : Nat) → List UInt8 → Nat × Int
  | significand, [] => (significand, 0)
  | significand, d :: rest =>
    if significand * 10 + digit d ≤ greatestSignificand then
      appendWhole (significand * 10 + digit d) rest
    else (significand, rest.length + 1)

/-- Appends digits of a fraction while 64 bits hold them, each a place less. -/
def appendFraction : (significand : Nat) → (places : Int) → List UInt8 → Nat × Int
  | significand, places, [] => (significand, places)
  | significand, places, d :: rest =>
    if significand * 10 + digit d ≤ greatestSignificand then
      appendFraction (significand * 10 + digit d) (places - 1) rest
    else (significand, places)

/-- The kept digits as a whole number, and the power of ten they are multiplied by. -/
def scaled (n : Number) : Nat × Int :=
  let (significand, places) := appendWhole 0 n.whole
  let (significand, places) := appendFraction significand places n.fraction
  let power : Int := n.power.foldl (fun p d => p * 10 + digit d) 0
  (significand, if n.small then places - power else places + power)

/-- The nearest whole number with 53 significant bits, of two equally near the even one. -/
def nearestDouble (n : Nat) : Nat :=
  if n < Nat.pow 2 53 then n
  else
    let unit := Nat.pow 2 (n.log2 - 52)
    let kept := n / unit
    let left := n % unit
    if unit < 2 * left ∨ (unit = 2 * left ∧ kept % 2 = 1) then (kept + 1) * unit else kept * unit

/-- From here on, products are rounded beyond the greatest double. -/
def beyondDoubles : Nat := Nat.pow 2 1024 - Nat.pow 2 970

/-- The greatest power of ten that a double holds. -/
def greatestPower : Nat := 308

/-- The number lies beyond the greatest double. -/
def isTooLarge (n : Number) : Bool :=
  match n.scaled with
  | (0, _) => false
  | (significand, .ofNat power) =>
    decide (greatestPower < power) ||
      decide (beyondDoubles ≤ nearestDouble significand * nearestDouble (Nat.pow 10 power))
  | (_, .negSucc _) => false

end Number

end TokenRotation.Json
