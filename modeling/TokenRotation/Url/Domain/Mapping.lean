import TokenRotation.Url.Domain.Refused
import TokenRotation.Url.Domain.Replaced.Ranges
import TokenRotation.Url.Domain.Replaced.Letters
import TokenRotation.Url.Domain.Replaced.Ideographs
import TokenRotation.Url.Domain.Replaced.Spellings

/-!
# The plain spelling of a domain

Before a domain is looked at, each of its characters is kept, replaced by others, left out or
refused. Capital letters become small ones in particular, and the full stops of other scripts become
the dot.

* `plain?_append` -- the characters are looked at one by one.
-/

namespace TokenRotation.Url.Domain

/-! ## 1. Replacements -/

/-- The replacement of a code in a range of pairs. -/
def ofPair? (n : Nat) : Option (List Nat) :=
  (paired.find? fun row => row.1 ≤ n ∧ n ≤ row.2 ∧ (n - row.1) % 2 = 0).map fun _ => [n + 1]

/-- The replacement of a code in a range that is replaced by a range. -/
def ofShift? (n : Nat) : Option (List Nat) :=
  (shifted.find? fun row => row.1 ≤ n ∧ n ≤ row.2.1).map fun row => [row.2.2 + (n - row.1)]

/-- The replacement of a code in a range that is replaced by one character. -/
def ofMerger? (n : Nat) : Option (List Nat) :=
  (merged.find? fun row => row.1 ≤ n ∧ n ≤ row.2.1).map fun row => [row.2.2]

/-- The entry for a code in rows that begin with a code. -/
def entry? {α : Type} (rows : List (Nat × List α)) (n : Nat) : Option α :=
  rows.findSome? fun row => if row.1 ≤ n then row.2[n - row.1]? else none

/-- The replacement of a code by one other, told one by one. -/
def ofLetter? (n : Nat) : Option (List Nat) :=
  let tables :=
    [respelledUpToGreek, respelledUpToRadicals, respelledUpToLatin, respelledForms,
      respelledUpToSymbols, respelledIdeographs, respelledSupplement]
  (tables.findSome? fun table => entry? table n).map ([·])

/-- The replacement of a code by several. -/
def ofSpelling? (n : Nat) : Option (List Nat) :=
  let tables :=
    [spelledUpToGreek, spelledUpToHan, spelledSquares, spelledLigatures, spelledArabic,
      spelledUpToEnd]
  tables.findSome? fun table => entry? table n

/-- What a character is replaced by. -/
def replacement? (c : Char) : Option (List Char) :=
  let n := c.toNat
  let codes := ofPair? n <|> ofShift? n <|> ofMerger? n <|> ofLetter? n <|> ofSpelling? n
  codes.map fun codes => codes.map Char.ofNat

/-! ## 2. Spelling -/

/-- What a character becomes; nothing if it is refused. -/
def respell? (c : Char) : Option (List Char) :=
  if isRefused c then none
  else if isDropped c then some []
  else some ((replacement? c).getD [c])

/-- The characters that a text becomes, if none of them is refused. -/
def plain? : List Char → Option (List Char)
  | [] => some []
  | c :: rest => do
    let head ← respell? c
    let tail ← plain? rest
    some (head ++ tail)

/-- The character stays as it is. -/
def isPlain (c : Char) : Bool := respell? c = some [c]

/-- The characters are looked at one by one. -/
theorem plain?_append (a b : List Char) :
    plain? (a ++ b) = (plain? a).bind fun head => (plain? b).map fun tail => head ++ tail := by
  induction a with
  | nil => cases h : plain? b <;> simp [plain?, h]
  | cons c rest ih =>
    simp only [List.cons_append, plain?, ih]
    cases respell? c <;> cases plain? rest <;> cases plain? b <;> simp

end TokenRotation.Url.Domain
