import TokenRotation.Text.CombiningClass
import TokenRotation.Text.Composites

/-!
# The composed form of a text

Many characters can be written as one or as several: a letter with a mark as a composite or as its
parts, the marks on a letter in several orders, a syllable of Hangul as one or as its letters. What
reads alike has one composed form: everything is taken apart, marks that do not touch one another
are put into the order of their classes, and then all is composed again.
-/

namespace TokenRotation.Text

/-! ## 1. Syllables of Hangul -/

/-- The codes of the first leading consonant, vowel and trailing consonant, of the syllable without
    a trailing consonant that begins the list of syllables, and how many there are of each. The
    first trailing consonant stands for none. -/
def hangulLead : Nat := 0x1100

@[inherit_doc hangulLead] def hangulVowel : Nat := 0x1161

@[inherit_doc hangulLead] def hangulTrail : Nat := 0x11a7

@[inherit_doc hangulLead] def hangulSyllable : Nat := 0xac00

@[inherit_doc hangulLead] def hangulLeads : Nat := 19

@[inherit_doc hangulLead] def hangulVowels : Nat := 21

@[inherit_doc hangulLead] def hangulTrails : Nat := 28

/-- The letters of a syllable, and nothing for another code. -/
def hangulLetters? (n : Nat) : Option (List Nat) :=
  if hangulSyllable ≤ n ∧ n < hangulSyllable + hangulLeads * hangulVowels * hangulTrails then
    let index := n - hangulSyllable
    let lead := hangulLead + index / (hangulVowels * hangulTrails)
    let vowel := hangulVowel + index / hangulTrails % hangulVowels
    let trail := index % hangulTrails
    some ([lead, vowel] ++ if trail = 0 then [] else [hangulTrail + trail])
  else none

/-- The syllable of a consonant and a vowel, or of a syllable and a trailing consonant. -/
def hangulPair? (a b : Nat) : Option Nat :=
  if hangulLead ≤ a ∧ a < hangulLead + hangulLeads ∧
      hangulVowel ≤ b ∧ b < hangulVowel + hangulVowels then
    some (hangulSyllable +
      ((a - hangulLead) * hangulVowels + (b - hangulVowel)) * hangulTrails)
  else if hangulSyllable ≤ a ∧ a < hangulSyllable + hangulLeads * hangulVowels * hangulTrails ∧
      (a - hangulSyllable) % hangulTrails = 0 ∧
      hangulTrail < b ∧ b < hangulTrail + hangulTrails then
    some (a + (b - hangulTrail))
  else none

/-! ## 2. Taking apart -/

/-- The parts of a code; the first part of a composite is taken apart `depth` times at most. -/
def parts : (depth : Nat) → Nat → List Nat
  | 0, n => [n]
  | depth + 1, n =>
    match composites.find? fun row => row.1 = n with
    | some row => parts depth row.2.1 ++ [row.2.2]
    | none => (hangulLetters? n).getD [n]

/-- No composite is made of more than four characters. -/
def maxParts : Nat := 4

/-- A text with its composites and syllables taken apart. -/
def decomposed (text : List Char) : List Char :=
  text.flatMap fun c => (parts (maxParts - 1) c.toNat).map Char.ofNat

/-! ## 3. Order -/

/-- Puts a character before a text in order: behind the marks that have a lesser class than it. -/
def insertOrdered (c : Char) : List Char → List Char
  | [] => [c]
  | d :: rest =>
    if 0 < combiningClass d ∧ combiningClass d < combiningClass c then d :: insertOrdered c rest
    else c :: d :: rest

/-- A text with the marks on each letter in the order of their classes. -/
def ordered (text : List Char) : List Char := text.foldr insertOrdered []

/-! ## 4. Composing -/

/-- The composite of two characters. -/
def pair? (a b : Char) : Option Char :=
  let made := (composites.find? fun row => row.2.1 = a.toNat ∧ row.2.2 = b.toNat).map (·.1)
  (made <|> hangulPair? a.toNat b.toNat).map Char.ofNat

/-- Composes what follows a letter. `held` are the marks that stay behind it; one of them keeps away
    what has no greater class than it. -/
def composedFrom (letter : Char) (held : List Char) : List Char → List Char
  | [] => letter :: held
  | c :: rest =>
    let kept := held.getLast?.any fun mark => combiningClass c ≤ combiningClass mark
    match if kept then none else pair? letter c with
    | some composite => composedFrom composite held rest
    | none =>
      if combiningClass c = 0 then letter :: held ++ composedFrom c [] rest
      else composedFrom letter (held ++ [c]) rest

/-- Composes a text in order; marks without a letter stay as they are. -/
def composed : List Char → List Char
  | [] => []
  | c :: rest => if combiningClass c = 0 then composedFrom c [] rest else c :: composed rest

/-- The composed form of a text. -/
def normal (text : List Char) : List Char := composed (ordered (decomposed text))

end TokenRotation.Text
