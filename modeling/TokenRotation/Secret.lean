import TokenRotation.Digest
import TokenRotation.Bytes.Base64Url

/-!
# Token secrets and their hashes

A secret is 32 random bytes. Its text is what a client holds; a store keeps the hash of that text
and never the text.

* `ofBytes?_bytes` -- a secret is its bytes;
* `length_token` -- the text of a secret has 43 letters;
* `length_hashOf` -- the hash of any text has 64 digits.
-/

namespace TokenRotation

/-- The random bytes behind a token. -/
structure Secret where
  bytes : List UInt8
  length_bytes : bytes.length = 32
deriving DecidableEq, Repr

namespace Secret

/-- The secret of 32 bytes. -/
def ofBytes? (bytes : List UInt8) : Option Secret :=
  if h : bytes.length = 32 then some ⟨bytes, h⟩ else none

/-- The secret whose bytes write a number, most significant first. -/
def ofNat (n : Nat) : Secret := ⟨Bytes.BigEndian.ofNat 32 n, Bytes.BigEndian.length_ofNat 32 n⟩

/-- The text a client holds: base64url without padding. -/
def token (s : Secret) : String := Bytes.Base64Url.text s.bytes

theorem ofBytes?_bytes (s : Secret) : ofBytes? s.bytes = some s := by
  simp [ofBytes?, s.length_bytes]

theorem length_token (s : Secret) : s.token.length = 43 := by
  simp [token, Bytes.Base64Url.text, Bytes.Base64Url.length_encode, s.length_bytes]

end Secret

/-- The hash under which a store knows a token: the digest of its UTF-8 bytes, in hexadecimal. -/
def hashOf (token : String) : String := (Digest.ofMessage token.toUTF8.toList).text

theorem length_hashOf (token : String) : (hashOf token).length = 64 := by
  rw [← String.length_toList]
  exact Digest.length_toList_text _

end TokenRotation
