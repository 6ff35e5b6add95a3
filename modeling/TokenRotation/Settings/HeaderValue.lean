/-!
# Header values

A text that may stand as the value of a header: no control character but the tab.
-/

namespace TokenRotation.Settings

/-- The character may stand in a header value. -/
def isHeaderChar (c : Char) : Bool := c = '\t' || (0x20 ≤ c.toNat && c.toNat ≠ 0x7f)

/-- A text that may stand as the value of a header. -/
structure HeaderValue where
  text : String
  valid : text.toList.all isHeaderChar = true
deriving DecidableEq, Repr

/-- Takes a text for a header value, if it may be one. -/
def HeaderValue.ofText? (text : String) : Option HeaderValue :=
  if h : text.toList.all isHeaderChar = true then some ⟨text, h⟩ else none

theorem HeaderValue.ofText?_text (v : HeaderValue) : ofText? v.text = some v := by
  simp [ofText?, v.valid]

end TokenRotation.Settings
