import TokenRotation.Proofs.Standard
import TokenRotation.Proofs.Undisturbed

/-!
# How secrets and digests are spelled

The text of a secret and the hash of a text are spellings of bytes, and a spelling loses nothing:
there is a reader for each that gives the bytes back. A reader of base64url is strict: it takes no
letter from outside the alphabet, no letter on its own, and no low bits that are not zero. So it
takes exactly what is written, and every row of bytes has one spelling.

A hash spells the digest of a text. Whatever the text was, the digest has 32 bytes and its spelling
64 digits, which is the one thing that a database checks of a hash. The digest is that of the
standard, and two texts have one hash exactly where the standard gives them one digest.

* `Bytes.Base64Url.decode_eq_some_iff` -- the reader takes exactly what is written;
* `Bytes.Hex.isDigit_of_mem_encode` -- written hexadecimal digits are lower case;
* `Secret.ofToken?_eq_some_iff`, `Digest.text_inj` -- what tokens and hashes tell apart;
* `spelled` -- **the text of a token loses nothing, and every hash fits its column**.
-/

namespace TokenRotation

/-! ## 1. base64url -/

namespace Bytes.Base64Url

/-- The letters that bytes are spelled with: `A`-`Z`, `a`-`z`, `0`-`9`, `-`, `_`. -/
def isLetter (c : Char) : Bool :=
  ('A' ≤ c && c ≤ 'Z') || ('a' ≤ c && c ≤ 'z') || ('0' ≤ c && c ≤ '9') || c = '-' || c = '_'

/-- The number of a letter. -/
def value? (c : Char) : Option Nat :=
  if 'A' ≤ c ∧ c ≤ 'Z' then some (c.toNat - 65)
  else if 'a' ≤ c ∧ c ≤ 'z' then some (c.toNat - 71)
  else if '0' ≤ c ∧ c ≤ '9' then some (c.toNat + 4)
  else if c = '-' then some 62
  else if c = '_' then some 63
  else none

/-- The bytes of letters. Refuses any other letter, a letter on its own, and low bits that no byte
    takes up and that are not zero. -/
def decode : List Char → Option (List UInt8)
  | [] => some []
  | [_] => none
  | [a, b] => do
    let n := (← value? a) * 64 + (← value? b)
    if n % 16 = 0 then some [UInt8.ofNat (n / 16)] else none
  | [a, b, c] => do
    let n := ((← value? a) * 64 + (← value? b)) * 64 + (← value? c)
    if n % 4 = 0 then some [UInt8.ofNat (n / 1024), UInt8.ofNat (n / 4)] else none
  | a :: b :: c :: d :: rest => do
    let n := (((← value? a) * 64 + (← value? b)) * 64 + (← value? c)) * 64 + (← value? d)
    let bytes ← decode rest
    some (UInt8.ofNat (n / 65536) :: UInt8.ofNat (n / 256) :: UInt8.ofNat n :: bytes)

theorem value?_letter {n : Nat} (h : n < 64) : value? (letter n) = some n := by
  have all : ∀ m : Fin 64, value? (letter m) = some m.val := by decide
  exact all ⟨n, h⟩

theorem isLetter_letter {n : Nat} (h : n < 64) : isLetter (letter n) := by
  have all : ∀ m : Fin 64, isLetter (letter m) := by decide
  exact all ⟨n, h⟩

/-- Only ASCII characters are letters. -/
theorem toNat_lt_of_value? {c : Char} {n : Nat} (h : value? c = some n) : c.toNat < 128 := by
  have below {d : Char} (hle : c ≤ d) : c.toNat ≤ d.toNat := hle
  unfold value? at h
  split at h
  · next hrange => exact Nat.lt_of_le_of_lt (below hrange.2) (by decide)
  · split at h
    · next hrange => exact Nat.lt_of_le_of_lt (below hrange.2) (by decide)
    · split at h
      · next hrange => exact Nat.lt_of_le_of_lt (below hrange.2) (by decide)
      · split at h
        · next heq => exact heq ▸ by decide
        · split at h
          · next heq => exact heq ▸ by decide
          · cases h

/-- A number has one letter. -/
theorem value?_eq_some_iff {c : Char} {n : Nat} : value? c = some n ↔ n < 64 ∧ c = letter n := by
  constructor
  · intro h
    have all : ∀ m : Fin 128, ∀ n ∈ value? (Char.ofNat m), n < 64 ∧ Char.ofNat m = letter n := by
      decide
    have hc := all ⟨c.toNat, toNat_lt_of_value? h⟩ n
    simp only [Char.ofNat_toNat] at hc
    exact hc h
  · rintro ⟨h, rfl⟩
    exact value?_letter h

/-- The byte of a number is known by what the number leaves. -/
theorem ofNat_eq_of_mod {n : Nat} (byte : UInt8) (h : n % 256 = byte.toNat) :
    UInt8.ofNat n = byte := by
  rw [← UInt8.toNat_inj, UInt8.toNat_ofNat']
  exact h

/-- **What is written is read.** -/
theorem decode_encode (bytes : List UInt8) : decode (encode bytes) = some bytes := by
  fun_induction encode bytes with
  | case1 => rfl
  | case2 a n =>
    have ha := a.toNat_lt
    have hn : n = a.toNat * 16 := rfl
    simp only [decode, value?_letter (show n / 64 < 64 by omega),
      value?_letter (show n % 64 < 64 by omega), Option.bind_eq_bind, Option.bind_some]
    rw [if_pos (by omega), ofNat_eq_of_mod a (by omega)]
  | case3 a b n =>
    have ha := a.toNat_lt
    have hb := b.toNat_lt
    have hn : n = (a.toNat * 256 + b.toNat) * 4 := rfl
    simp only [decode, value?_letter (show n / 4096 < 64 by omega),
      value?_letter (show n / 64 % 64 < 64 by omega), value?_letter (show n % 64 < 64 by omega),
      Option.bind_eq_bind, Option.bind_some]
    rw [if_pos (by omega), ofNat_eq_of_mod a (by omega),
      ofNat_eq_of_mod b (by omega)]
  | case4 a b c rest n ih =>
    have ha := a.toNat_lt
    have hb := b.toNat_lt
    have hc := c.toNat_lt
    have hn : n = (a.toNat * 256 + b.toNat) * 256 + c.toNat := rfl
    simp only [decode, value?_letter (show n / 262144 < 64 by omega),
      value?_letter (show n / 4096 % 64 < 64 by omega),
      value?_letter (show n / 64 % 64 < 64 by omega), value?_letter (show n % 64 < 64 by omega),
      ih, Option.bind_eq_bind, Option.bind_some]
    rw [ofNat_eq_of_mod a (by omega), ofNat_eq_of_mod b (by omega),
      ofNat_eq_of_mod c (by omega)]

/-- **What is read was written**: no bytes have a second spelling. -/
theorem eq_encode_of_decode {text : List Char} {bytes : List UInt8}
    (h : decode text = some bytes) : text = encode bytes := by
  fun_induction decode text generalizing bytes with
  | case1 =>
    cases h
    rfl
  | case2 => cases h
  | case3 a b =>
    simp only [Option.bind_eq_bind, Option.bind_eq_some_iff, value?_eq_some_iff] at h
    obtain ⟨m, ⟨hm, rfl⟩, n, ⟨hn, rfl⟩, h⟩ := h
    split at h
    · next whole =>
      cases h
      simp only [encode, UInt8.toNat_ofNat']
      have same : (m * 64 + n) / 16 % 2 ^ 8 * 16 = m * 64 + n := by omega
      rw [same, show (m * 64 + n) / 64 = m by omega, show (m * 64 + n) % 64 = n by omega]
    · cases h
  | case4 a b c =>
    simp only [Option.bind_eq_bind, Option.bind_eq_some_iff, value?_eq_some_iff] at h
    obtain ⟨m, ⟨hm, rfl⟩, n, ⟨hn, rfl⟩, l, ⟨hl, rfl⟩, h⟩ := h
    split at h
    · next whole =>
      cases h
      simp only [encode, UInt8.toNat_ofNat']
      generalize hx : (m * 64 + n) * 64 + l = x at whole ⊢
      have same : (x / 1024 % 2 ^ 8 * 256 + x / 4 % 2 ^ 8) * 4 = x := by omega
      rw [same, show x / 4096 = m by omega, show x / 64 % 64 = n by omega,
        show x % 64 = l by omega]
    · cases h
  | case5 a b c d rest ih =>
    simp only [Option.bind_eq_bind, Option.bind_eq_some_iff, value?_eq_some_iff] at h
    obtain ⟨m, ⟨hm, rfl⟩, n, ⟨hn, rfl⟩, l, ⟨hl, rfl⟩, k, ⟨hk, rfl⟩, tail, htail, h⟩ := h
    cases h
    simp only [encode, UInt8.toNat_ofNat', ← ih htail]
    generalize hx : ((m * 64 + n) * 64 + l) * 64 + k = x
    have same : (x / 65536 % 2 ^ 8 * 256 + x / 256 % 2 ^ 8) * 256 + x % 2 ^ 8 = x := by omega
    rw [same, show x / 262144 = m by omega, show x / 4096 % 64 = n by omega,
      show x / 64 % 64 = l by omega, show x % 64 = k by omega]

/-- **The reader takes exactly what is written.** -/
theorem decode_eq_some_iff {text : List Char} {bytes : List UInt8} :
    decode text = some bytes ↔ text = encode bytes :=
  ⟨eq_encode_of_decode, fun h => h ▸ decode_encode bytes⟩

theorem isLetter_of_mem_encode {bytes : List UInt8} {c : Char} (h : c ∈ encode bytes) :
    isLetter c := by
  fun_induction encode bytes with
  | case1 => cases h
  | case2 a n =>
    have ha := a.toNat_lt
    have hn : n = a.toNat * 16 := rfl
    rcases List.mem_pair.mp h with rfl | rfl <;> exact isLetter_letter (by omega)
  | case3 a b n =>
    have ha := a.toNat_lt
    have hb := b.toNat_lt
    have hn : n = (a.toNat * 256 + b.toNat) * 4 := rfl
    simp only [List.mem_cons, List.not_mem_nil, or_false] at h
    rcases h with rfl | rfl | rfl <;> exact isLetter_letter (by omega)
  | case4 a b c' rest n ih =>
    have ha := a.toNat_lt
    have hb := b.toNat_lt
    have hc := c'.toNat_lt
    have hn : n = (a.toNat * 256 + b.toNat) * 256 + c'.toNat := rfl
    simp only [List.mem_cons] at h
    rcases h with rfl | rfl | rfl | rfl | h
    · exact isLetter_letter (by omega)
    · exact isLetter_letter (by omega)
    · exact isLetter_letter (by omega)
    · exact isLetter_letter (by omega)
    · exact ih h

end Bytes.Base64Url

/-! ## 2. Hexadecimal digits -/

namespace Bytes.Hex

/-- The digits that bytes are written with: `0`-`9`, `a`-`f`. -/
def isDigit (c : Char) : Bool := ('0' ≤ c && c ≤ '9') || ('a' ≤ c && c ≤ 'f')

theorem isDigit_digit {n : Nat} (h : n < 16) : isDigit (digit n) := by
  have all : ∀ m : Fin 16, isDigit (digit m) := by decide
  exact all ⟨n, h⟩

theorem isDigit_of_mem_encode {bytes : List UInt8} {c : Char} (h : c ∈ encode bytes) :
    isDigit c := by
  induction bytes with
  | nil => cases h
  | cons byte rest ih =>
    have hbyte := byte.toNat_lt
    simp only [encode, List.mem_cons] at h
    rcases h with rfl | rfl | h
    · exact isDigit_digit (by omega)
    · exact isDigit_digit (by omega)
    · exact ih h

end Bytes.Hex

/-! ## 3. The digest -/

namespace Digest

/-- A word is the four bytes that write it. -/
theorem ofNat_toNat_inj {v w : UInt32}
    (h : Bytes.BigEndian.ofNat 4 v.toNat = Bytes.BigEndian.ofNat 4 w.toNat) : v = w := by
  have hread := congrArg Bytes.BigEndian.toNat h
  rw [Bytes.BigEndian.toNat_ofNat, Bytes.BigEndian.toNat_ofNat] at hread
  have hv : v.toNat % Nat.pow 256 4 = v.toNat := Nat.mod_eq_of_lt v.toNat_lt
  have hw : w.toNat % Nat.pow 256 4 = w.toNat := Nat.mod_eq_of_lt w.toNat_lt
  rw [hv, hw] at hread
  exact UInt32.toNat_inj.mp hread

/-- As many words are their bytes. -/
theorem flatMap_ofNat_inj {vs ws : List UInt32} (same : vs.length = ws.length)
    (h : (vs.flatMap fun w => Bytes.BigEndian.ofNat 4 w.toNat) =
      ws.flatMap fun w => Bytes.BigEndian.ofNat 4 w.toNat) : vs = ws := by
  induction vs generalizing ws with
  | nil => exact (List.length_eq_zero_iff.mp same.symm).symm
  | cons v vs ih =>
    cases ws with
    | nil => cases same
    | cons w ws =>
      simp only [List.flatMap_cons] at h
      obtain ⟨hfirst, hrest⟩ := List.append_inj h (by simp)
      rw [ofNat_toNat_inj hfirst, ih (Nat.succ.inj same) hrest]

/-- **A digest is its bytes.** -/
theorem eq_of_bytes {s t : Digest} (h : s.bytes = t.bytes) : s = t := by
  have words := @flatMap_ofNat_inj s.toWords t.toWords rfl h
  cases s
  cases t
  simpa [toWords] using words

theorem decode_text (s : Digest) : Bytes.Hex.decode s.text.toList = some s.bytes := by
  rw [text, Bytes.Hex.text, String.toList_ofList, Bytes.Hex.decode_encode]

/-- **A digest is its text.** -/
theorem text_inj {s t : Digest} : s.text = t.text ↔ s = t := by
  refine ⟨fun h => eq_of_bytes (Option.some.inj ?_), fun h => h ▸ rfl⟩
  rw [← decode_text, ← decode_text, h]

end Digest

/-! ## 4. Tokens and hashes -/

namespace Secret

/-- The secret of a text. -/
def ofToken? (token : String) : Option Secret :=
  (Bytes.Base64Url.decode token.toList).bind ofBytes?

theorem ofBytes?_eq_some_iff {bytes : List UInt8} {s : Secret} :
    ofBytes? bytes = some s ↔ bytes = s.bytes := by
  constructor
  · intro h
    unfold ofBytes? at h
    split at h
    · cases h
      rfl
    · cases h
  · rintro rfl
    exact ofBytes?_bytes s

/-- **A text is the token of one secret or of none**, and is read as that. -/
theorem ofToken?_eq_some_iff {token : String} {s : Secret} :
    ofToken? token = some s ↔ token = s.token := by
  have spelled : token = s.token ↔ token.toList = Bytes.Base64Url.encode s.bytes := by
    rw [Secret.token, Bytes.Base64Url.text, ← String.toList_inj, String.toList_ofList]
  simp only [ofToken?, Option.bind_eq_some_iff, Bytes.Base64Url.decode_eq_some_iff,
    ofBytes?_eq_some_iff, spelled, exists_eq_right]

/-- **Different secrets have different tokens.** -/
theorem token_inj {s t : Secret} : s.token = t.token ↔ s = t := by
  refine ⟨fun h => Option.some.inj ?_, fun h => h ▸ rfl⟩
  rw [← ofToken?_eq_some_iff.mpr (rfl : s.token = s.token), h, ofToken?_eq_some_iff.mpr rfl]

end Secret

/-- What a database without faults makes of an insertion under the hash of a text is never decided
    by the length of the hash. -/
theorem DurableStore.perform_insert_hashOf {d : DurableStore} (clear : d.wire.IsClear)
    {token : NewToken} {text : String} (hash : token.hash = hashOf text) :
    (d.perform (.insert token)).outcome ≠
      .failed (.invalidInput "Value violates a table constraint") := by
  have responds := (DurableStore.responds clear (.insert token)).outcome
  change (d.perform (.insert token)).outcome =
    (StoreKind.durable.respond d.wire.server d.rows _).outcome at responds
  have whole : token.hash.length = 64 := hash ▸ length_hashOf text
  rw [responds, StoreKind.respond]
  split
  · simp
  · simp only [StoreKind.undertake, whole, ne_eq, not_true_eq_false, and_false, if_false]
    split
    · simp
    · split <;> simp

/-- **The text of a token loses nothing, and every hash fits its column.** -/
structure Spelled : Prop where
  /-- The token of a secret has 43 letters of base64url. -/
  letters : ∀ s : Secret, s.token.length = 43 ∧
    ∀ c ∈ s.token.toList, Bytes.Base64Url.isLetter c
  /-- The secret is read back from it, and from no other text. -/
  recovered : ∀ (s : Secret) (text : String), Secret.ofToken? text = some s ↔ text = s.token
  /-- Different secrets have different tokens. -/
  apart : ∀ s t : Secret, s ≠ t → s.token ≠ t.token
  /-- The hash of a text has 64 lower-case hexadecimal digits. -/
  digits : ∀ text : String, (hashOf text).length = 64 ∧
    ∀ c ∈ (hashOf text).toList, Bytes.Hex.isDigit c
  /-- The 32 bytes of the digest that the standard gives are read back from them. -/
  digest : ∀ text : String, (Sha256.digest text.toUTF8.toList).bytes.length = 32 ∧
    Bytes.Hex.decode (hashOf text).toList = some (Sha256.digest text.toUTF8.toList).bytes
  /-- Two hashes are equal exactly when the digests are. -/
  equal : ∀ text other : String, hashOf text = hashOf other ↔
    Sha256.digest text.toUTF8.toList = Sha256.digest other.toUTF8.toList
  /-- No insertion under such a hash breaks the constraint on lengths. -/
  fits : ∀ (d : DurableStore) (token : NewToken) (text : String), d.wire.IsClear →
    token.hash = hashOf text → (d.perform (.insert token)).outcome ≠
      .failed (.invalidInput "Value violates a table constraint")

/-- **Tokens and hashes are spellings** that lose nothing, for all secrets and texts. -/
theorem spelled : Spelled where
  letters s := by
    refine ⟨s.length_token, fun c hc => ?_⟩
    rw [Secret.token, Bytes.Base64Url.text, String.toList_ofList] at hc
    exact Bytes.Base64Url.isLetter_of_mem_encode hc
  recovered _ _ := Secret.ofToken?_eq_some_iff
  apart _ _ := mt Secret.token_inj.mp
  digits text := by
    refine ⟨length_hashOf text, fun c hc => ?_⟩
    rw [hashOf, Digest.text, Bytes.Hex.text, String.toList_ofList] at hc
    exact Bytes.Hex.isDigit_of_mem_encode hc
  digest text := by
    rw [← Sha256.registers_ofMessage, Sha256.bytes_registers]
    exact ⟨Digest.length_bytes _, Digest.decode_text _⟩
  equal text other := by
    rw [← Sha256.registers_ofMessage, ← Sha256.registers_ofMessage, Sha256.registers_inj]
    exact Digest.text_inj
  fits _ _ _ clear hash := DurableStore.perform_insert_hashOf clear hash

/-- The digest of three letters that its standard gives. -/
example : hashOf "abc" = "ba7816bf8f01cfea414140de5dae2223b00361a396177a9cb410ff61f20015ad" := by
  decide +kernel

end TokenRotation
