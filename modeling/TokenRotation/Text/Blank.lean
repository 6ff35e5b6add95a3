/-!
# Blank text

A character is blank when it has the Unicode property White_Space; a text is blank when all of its
characters are, the empty text included.

* `isWhiteSpace_iff` -- the 25 characters of the property.
-/

namespace TokenRotation.Text

/-- The ranges of the property White_Space, both ends included. -/
def whiteSpaceRanges : List (Nat × Nat) :=
  [(0x09, 0x0d), (0x20, 0x20), (0x85, 0x85), (0xa0, 0xa0), (0x1680, 0x1680), (0x2000, 0x200a),
   (0x2028, 0x2029), (0x202f, 0x202f), (0x205f, 0x205f), (0x3000, 0x3000)]

/-- The character is white space. -/
def isWhiteSpace (c : Char) : Bool :=
  whiteSpaceRanges.any fun range => range.1 ≤ c.toNat && c.toNat ≤ range.2

/-- **White space** is the controls from the tabulator to the carriage return, the space, the next
    line, the space without a break, and the spaces and separators of other scripts. -/
theorem isWhiteSpace_iff {c : Char} :
    isWhiteSpace c = true ↔ c ∈ ['\t', '\n', '\x0b', '\x0c', '\r', ' ', '\u0085', '\u00a0',
      '\u1680', '\u2000', '\u2001', '\u2002', '\u2003', '\u2004', '\u2005', '\u2006', '\u2007',
      '\u2008', '\u2009', '\u200a', '\u2028', '\u2029', '\u202f', '\u205f', '\u3000'] := by
  have same (d : Char) : c = d ↔ c.toNat = d.toNat := Char.toNat_inj.symm
  simp only [List.mem_cons, List.not_mem_nil, or_false, same, Char.reduceToNat]
  simp only [isWhiteSpace, whiteSpaceRanges, List.any_cons, List.any_nil, Bool.or_false,
    Bool.or_eq_true, Bool.and_eq_true, decide_eq_true_eq]
  omega

/-- The text has no character other than white space. -/
def isBlank (text : String) : Bool := text.toList.all isWhiteSpace

theorem isBlank_iff {text : String} :
    isBlank text = true ↔ ∀ c ∈ text.toList, isWhiteSpace c = true := by
  simp [isBlank]

end TokenRotation.Text
