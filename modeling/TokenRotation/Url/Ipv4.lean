import TokenRotation.Bytes.Hex

/-!
# Hosts that are numbers

A domain whose last label is a number is meant for a host of four bytes: up to four numbers between
dots, of which the last fills the bytes that the others leave. A number is decimal, octal behind a
zero, or hexadecimal behind a zero and an x; a zero and an x alone are zero.

* `isAddress_of_zero` -- a zero alone is an address.
-/

namespace TokenRotation.Url.Ipv4

/-- The number of digits in a base; no digits are zero. -/
def digits? (base : Nat) (digits : List Char) : Option Nat :=
  digits.foldlM
    (fun n c => do
      let digit ← Bytes.Hex.value? c
      if digit < base then some (n * base + digit) else none)
    0

/-- Reads a number. -/
def number? : List Char → Option Nat
  | [] => none
  | '0' :: 'x' :: rest | '0' :: 'X' :: rest => digits? 16 rest
  | '0' :: c :: rest => digits? 8 (c :: rest)
  | decimal => digits? 10 decimal

/-- The labels without an empty one at the end, behind the last dot. -/
def withoutRoot (labels : List (List Char)) : List (List Char) :=
  if labels.getLast? = some [] then labels.dropLast else labels

/-- The last label is a number, or would be one if it had other digits. -/
def endsInNumber (labels : List (List Char)) : Bool :=
  (withoutRoot labels).getLast?.any fun last =>
    (last ≠ [] && last.all Char.isDigit) || (number? last).isSome

/-- The numbers fit into four bytes: one byte each, and the last one into the bytes that are
    left. -/
def fits (numbers : List Nat) : Bool :=
  numbers.length ≤ 4 && numbers.dropLast.all (· < 256) &&
    numbers.getLast?.any (· < Nat.pow 256 (5 - numbers.length))

/-- The labels are a host of four bytes. -/
def isAddress (labels : List (List Char)) : Bool :=
  ((withoutRoot labels).mapM number?).any fits

/-- A zero alone is an address. -/
theorem isAddress_of_zero : isAddress [['0']] = true := by decide

end TokenRotation.Url.Ipv4
