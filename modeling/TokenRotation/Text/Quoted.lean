import TokenRotation.Text.Shown

/-!
# Quoted text

Text between double quotes, for logs: the quote and the backslash get a backslash before them,
four control characters have a letter, and every other character that does not show on its own is
written by its code in braces.
-/

namespace TokenRotation.Text.Quoted

/-- The digits of a number, in base sixteen and lower case, without leading zeros. -/
def hexDigits (n : Nat) : List Char := Nat.toDigits 16 n

/-- The written form of one character. -/
def encodeChar (c : Char) : List Char :=
  if c = '"' then ['\\', '"']
  else if c = '\\' then ['\\', '\\']
  else if c = '\t' then ['\\', 't']
  else if c = '\r' then ['\\', 'r']
  else if c = '\n' then ['\\', 'n']
  else if c = '\x00' then ['\\', '0']
  else if isShown c then [c]
  else ['\\', 'u', '\x7b'] ++ hexDigits c.toNat ++ ['\x7d']

/-- The written form of a text, without its quotes. -/
def encode (text : List Char) : List Char := text.flatMap encodeChar

/-- The written form of a text between its quotes. -/
def text (s : String) : String := String.ofList ('"' :: encode s.toList ++ ['"'])

theorem encode_append (a b : List Char) : encode (a ++ b) = encode a ++ encode b := by
  simp [encode]

/-- A text of shown characters other than the quote and the backslash is written as it is. -/
theorem encode_of_plain {s : List Char}
    (plain : ∀ c ∈ s, isShown c = true ∧ c ≠ '"' ∧ c ≠ '\\' ∧ c ≠ '\t' ∧ c ≠ '\r' ∧ c ≠ '\n' ∧
      c ≠ '\x00') : encode s = s := by
  induction s with
  | nil => rfl
  | cons c rest ih =>
    obtain ⟨shown, h⟩ := plain c (by simp)
    have tail := ih fun d hd => plain d (by simp [hd])
    simp only [encode, List.flatMap_cons] at tail ⊢
    rw [tail]
    simp [encodeChar, shown, h]

end TokenRotation.Text.Quoted
