/-!
# Punycode

A text of any characters as letters, digits and hyphens: the ASCII characters of the text, a hyphen,
and numbers that tell one by one which other character goes where. A number is written in digits of
base 36, the least first; where the digits of one number end is told by a bias, which is adapted
after each number. All numbers have 32 bits.

* `place?_length` -- a character put into its place makes the text longer by one.
-/

namespace TokenRotation.Url.Punycode

/-! ## 1. Digits and the bias -/

/-- The base of the digits. -/
def base : Nat := 36

/-- The value of a digit: letters of either case from 0 on, then decimal digits. -/
def digit? (c : Char) : Option Nat :=
  if 'a' ≤ c ∧ c ≤ 'z' then some (c.toNat - 97)
  else if 'A' ≤ c ∧ c ≤ 'Z' then some (c.toNat - 65)
  else if '0' ≤ c ∧ c ≤ '9' then some (c.toNat - 22)
  else none

/-- The least and the greatest threshold below which a digit is the last of its number. -/
def leastThreshold : Nat := 1

@[inherit_doc leastThreshold] def greatestThreshold : Nat := 26

/-- The threshold of a digit; `weightless` is 36 for the first digit of a number, 72 for the second
    and so on. -/
def threshold (bias weightless : Nat) : Nat :=
  if weightless ≤ bias + leastThreshold then leastThreshold
  else if bias + greatestThreshold ≤ weightless then greatestThreshold
  else weightless - bias

/-- Divides a number until it is small, and counts the digits that takes, in steps of the base. -/
def scale (n count : Nat) : Nat × Nat :=
  if (base - leastThreshold) * greatestThreshold / 2 < n then
    scale (n / (base - leastThreshold)) (count + base)
  else (n, count)
termination_by n
decreasing_by exact Nat.div_lt_self (by omega) (by decide)

/-- The bias after a number that was told of a text of that length. -/
def adapted (number length : Nat) (isFirst : Bool) : Nat :=
  let halved := if isFirst then number / 700 else number / 2
  let (n, count) := scale (halved + halved / length) 0
  count + (base - leastThreshold + 1) * n / (n + 38)

/-! ## 2. Decoding -/

/-- The greatest number. -/
def greatest : Nat := 4294967295

/-- A text that is being decoded. -/
structure Decoding where
  text : List Char
  /-- The code of the character that was put into place last. -/
  code : Nat := 128
  bias : Nat := 72
  /-- The place behind that character, and where the number being read has brought it. -/
  start : Nat := 0
  place : Nat := 0
  weight : Nat := 1
  /-- The count of the next digit, in steps of the base. -/
  count : Nat := base
deriving Repr

namespace Decoding

/-- Puts the next character into its place, if there is one of that code. -/
def place? (d : Decoding) : Option Decoding :=
  let length := d.text.length + 1
  let code := d.code + d.place / length
  let place := d.place % length
  if code.isValidChar then
    some
      { text := d.text.take place ++ Char.ofNat code :: d.text.drop place
        code, bias := adapted (d.place - d.start) length (d.start = 0)
        start := place + 1, place := place + 1 }
  else none

/-- Reads one digit. -/
def read? (d : Decoding) (c : Char) : Option Decoding :=
  match digit? c with
  | none => none
  | some digit =>
    let place := d.place + digit * d.weight
    let least := threshold d.bias d.count
    let weight := d.weight * (base - least)
    if greatest < place then none
    else if digit < least then Decoding.place? { d with place }
    else if greatest < weight then none
    else some { d with place, weight, count := d.count + base }

/-- The text, unless a number is incomplete. -/
def text? (d : Decoding) : Option (List Char) := if d.count = base then some d.text else none

/-- A character put into its place makes the text longer by one. -/
theorem place?_length {d e : Decoding} (h : d.place? = some e) :
    e.text.length = d.text.length + 1 := by
  simp only [place?] at h
  split at h
  · cases h
    have within := Nat.mod_lt d.place (Nat.succ_pos d.text.length)
    simp only [List.length_append, List.length_cons, List.length_take, List.length_drop]
    omega
  · cases h

end Decoding

/-- The text of a written form, whose ASCII characters stand before the last hyphen. -/
def decode? (written : List Char) : Option (List Char) :=
  let (digits, before) := written.reverse.span (· ≠ '-')
  let (ascii, digits) :=
    match before.drop 1 with
    | [] => ([], before.reverse ++ digits.reverse)
    | ascii => (ascii.reverse, digits.reverse)
  if (ascii ++ digits).all (·.toNat < 128) then do
    let d ← digits.foldlM Decoding.read? { text := ascii }
    d.text?
  else none

end TokenRotation.Url.Punycode
