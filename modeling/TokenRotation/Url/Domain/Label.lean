import TokenRotation.Text.Direction
import TokenRotation.Text.Joining
import TokenRotation.Text.Normal
import TokenRotation.Url.Domain.Mapping
import TokenRotation.Url.Punycode

/-!
# Labels

A domain is made of labels between dots. A label may be written in ASCII for another text, behind a
sign for that; it is then read as that text, which has to be in plain spelling and composed already.
No label begins with a mark, and a joiner stands in it only where it is seen.

Where a domain has anything that runs from right to left, every label runs in one direction, that of
its first letter.

* `isOneWay_of_plain` -- a label of letters from left to right alone runs in one direction.
-/

namespace TokenRotation.Url.Domain

open Text

/-! ## 1. Characters -/

/-- The character may not stand in a domain: controls, the space, and what has a meaning in an
    address. -/
def isBarred (c : Char) : Bool := c.toNat ≤ 0x20 || "\x7f%#/:<>?@[\\]^|".toList.contains c

/-! ## 2. Labels -/

/-- The most characters of a label that is written in ASCII for another text, and of a label beyond
    ASCII. -/
def maxEncoded : Nat := 2000

@[inherit_doc maxEncoded] def maxLabel : Nat := 1000

/-- The joiner that keeps letters apart, and the one that brings them together. -/
def nonJoiner : Char := '\u200c'

@[inherit_doc nonJoiner] def joiner : Char := '\u200d'

/-- Every joiner of a text is seen: it stands behind a sign that takes the vowel from a letter, or
    it keeps apart two letters that would be joined. `before` are the characters before the text. -/
def joinersSeen (before : List Char) : List Char → Bool
  | [] => true
  | c :: rest =>
    let behindKiller := before.getLast?.any fun d => combiningClass d = vowelKiller
    let seen :=
      if c = joiner then behindKiller
      else if c = nonJoiner then behindKiller || partsLetters before rest
      else true
    seen && joinersSeen (before ++ [c]) rest

/-- The text can be a label. -/
def isLabel (text : List Char) : Bool :=
  !text.head?.any isMark && joinersSeen [] text &&
    (text.all (·.toNat < 128) || text.length ≤ maxLabel)

/-- The text that a label in plain spelling stands for. -/
def decoded? (label : List Char) : Option (List Char) :=
  match label with
  | 'x' :: 'n' :: '-' :: '-' :: written => do
    if written = [] ∨ written.getLast? = some '-' ∨ maxEncoded < written.length then none
    else
      let text ← Punycode.decode? written
      if text.all isPlain && normal text = text && !text.any fun c => isBarred c || c = '.' then
        some text
      else none
  | text => some text

/-- Reads a label in plain spelling. -/
def label? (label : List Char) : Option (List Char) :=
  (decoded? label).filter isLabel

/-! ## 3. Directions -/

/-- Something in the text runs from right to left. -/
def hasRightToLeft (text : List Char) : Bool :=
  text.any fun c => direction c = .rightToLeft || direction c = .arabicNumber

/-- The characters of a text without the nonspacing marks at its end. -/
def withoutLastMarks (text : List Char) : List Char :=
  (text.reverse.dropWhile fun c => direction c = .nonspacing).reverse

/-- The label runs in one direction: it begins with a letter, ends in a letter or a digit, and has
    no letter of the other direction. From right to left it has digits of one kind only. -/
def isOneWay (label : List Char) : Bool :=
  let directions := (withoutLastMarks label).map direction
  match directions.head? with
  | none => label = []
  | some .leftToRight =>
    directions.all (· ∉ [.rightToLeft, .arabicNumber]) &&
      directions.getLast?.any (· ∈ [.leftToRight, .europeanNumber])
  | some .rightToLeft =>
    directions.all (· ≠ .leftToRight) &&
      directions.getLast?.any (· ∈ [.rightToLeft, .europeanNumber, .arabicNumber]) &&
      !(directions.contains .europeanNumber && directions.contains .arabicNumber)
  | some _ => false

/-- A label of letters from left to right alone runs in one direction. -/
theorem isOneWay_of_plain {label : List Char} (h : ∀ c ∈ label, direction c = .leftToRight) :
    isOneWay label = true := by
  have kept : withoutLastMarks label = label := by
    unfold withoutLastMarks
    cases hr : label.reverse with
    | nil => simpa using hr.symm
    | cons c rest =>
      have mem : c ∈ label := List.mem_reverse.1 (hr ▸ List.mem_cons_self)
      rw [List.dropWhile_cons_of_neg (by simp [h c mem]), ← hr, List.reverse_reverse]
  have same : label.map direction = List.replicate label.length .leftToRight :=
    List.map_eq_replicate_iff.2 h
  unfold isOneWay
  rw [kept, same]
  cases label with
  | nil => rfl
  | cons c rest => simp [List.getLast?_replicate, List.head?_replicate]

end TokenRotation.Url.Domain
