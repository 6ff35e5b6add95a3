import Mathlib.Data.List.Range
import Mathlib.Data.Nat.NthRoot.Defs
import Mathlib.Data.Nat.Find
import Mathlib.Tactic.Ring
import TokenRotation.Digest

/-!
# The digest as its standard has it

SHA-256 is laid down for messages of bits. What is laid down stands here formula by formula, in
words of 32 bits, with its constants as the roots of primes that they are; the running program is
not looked at for it. The program takes bytes for bits, keeps a window of sixteen words for the
schedule and has the constants as numbers, and comes to the same registers for every message.

* `Sha256.digest` -- the digest of the standard;
* `Sha256.bits_padded` -- padding with bytes is padding with bits;
* `Sha256.registers_rounds` -- the window goes along the schedule;
* `Sha256.registers_ofMessage` -- **the running digest is that of the standard**.
-/

namespace TokenRotation.Sha256

/-! ## 1. Functions and constants -/

/-- A word of 32 bits. -/
abbrev Word := BitVec 32

/-- Of each bit, the one that `x` chooses. -/
def choice (x y z : Word) : Word := (x &&& y) ^^^ (~~~x &&& z)

/-- Of each bit, the one that two of three have. -/
def majority (x y z : Word) : Word := (x &&& y) ^^^ (x &&& z) ^^^ (y &&& z)

/-- The upper-case sigmas, and after them the lower-case ones. -/
def upperSigma0 (x : Word) : Word := x.rotateRight 2 ^^^ x.rotateRight 13 ^^^ x.rotateRight 22

@[inherit_doc upperSigma0]
def upperSigma1 (x : Word) : Word := x.rotateRight 6 ^^^ x.rotateRight 11 ^^^ x.rotateRight 25

@[inherit_doc upperSigma0]
def lowerSigma0 (x : Word) : Word := x.rotateRight 7 ^^^ x.rotateRight 18 ^^^ x >>> 3

@[inherit_doc upperSigma0]
def lowerSigma1 (x : Word) : Word := x.rotateRight 17 ^^^ x.rotateRight 19 ^^^ x >>> 10

/-- The first 64 primes. -/
def primes : List Nat :=
  (List.range 312).filter fun n => 2 ≤ n && (List.range n).all fun d => d ≤ 1 || n % d ≠ 0

/-- The first 32 bits of the fractional part of a root of a number. -/
def rootFraction (degree n : Nat) : Word :=
  .ofNat 32 (Nat.nthRoot degree (n * 2 ^ (32 * degree)))

/-- The constant of a round: from the cube root of a prime. -/
def roundConstant (t : Nat) : Word := rootFraction 3 (primes.getD t 0)

/-- The eight registers. -/
structure Registers where
  a : Word
  b : Word
  c : Word
  d : Word
  e : Word
  f : Word
  g : Word
  h : Word
deriving DecidableEq

/-- The registers before the first block: from the square roots of the first eight primes. -/
def initial : Registers :=
  ⟨rootFraction 2 2, rootFraction 2 3, rootFraction 2 5, rootFraction 2 7, rootFraction 2 11,
    rootFraction 2 13, rootFraction 2 17, rootFraction 2 19⟩

/-! ## 2. Messages -/

/-- A number in bits, most significant first. -/
def bitsOf (width n : Nat) : List Bool := (List.range width).map fun i => n.testBit (width - 1 - i)

/-- A message of bytes in bits. -/
def bits (message : List UInt8) : List Bool := message.flatMap fun byte => bitsOf 8 byte.toNat

theorem exists_fill (length : Nat) : ∃ k, (length + 1 + k) % 512 = 448 :=
  ⟨(959 - length % 512) % 512, by omega⟩

/-- The least number of zero bits that makes room for the length at the end of a block. -/
def fill (length : Nat) : Nat := Nat.find (exists_fill length)

/-- A message with a bit that is set, the zero bits, and its length. -/
def padded (message : List Bool) : List Bool :=
  message ++ true :: List.replicate (fill message.length) false ++ bitsOf 64 message.length

/-- The word of 32 bits, most significant first. -/
def wordOf (bits : List Bool) : Word := .ofNat 32 (bits.foldl (fun n b => 2 * n + b.toNat) 0)

/-- The words of a block of a padded message. -/
def blockWord (padded : List Bool) (block t : Nat) : Word :=
  wordOf ((padded.drop (512 * block + 32 * t)).take 32)

/-! ## 3. The digest -/

/-- The schedule of a block. -/
def schedule (block : Nat → Word) (t : Nat) : Word :=
  if t < 16 then block t
  else lowerSigma1 (schedule block (t - 2)) + schedule block (t - 7)
    + lowerSigma0 (schedule block (t - 15)) + schedule block (t - 16)
termination_by t

/-- One round, with a constant and a word of the schedule. -/
def round (constant word : Word) (r : Registers) : Registers :=
  let t1 := r.h + upperSigma1 r.e + choice r.e r.f r.g + constant + word
  let t2 := upperSigma0 r.a + majority r.a r.b r.c
  ⟨t1 + t2, r.a, r.b, r.c, r.d + t1, r.e, r.f, r.g⟩

/-- The registers after a block. -/
def compressed (s : Registers) (block : Nat → Word) : Registers :=
  let r := (List.range 64).foldl (fun r t => round (roundConstant t) (schedule block t) r) s
  ⟨s.a + r.a, s.b + r.b, s.c + r.c, s.d + r.d, s.e + r.e, s.f + r.f, s.g + r.g, s.h + r.h⟩

/-- **The digest of a message**: the blocks of the padded message one after the other. -/
def digest (message : List UInt8) : Registers :=
  let whole := padded (bits message)
  (List.range (whole.length / 512)).foldl (fun s n => compressed s (blockWord whole n)) initial

/-- The registers as bytes, most significant first. -/
def Registers.bytes (r : Registers) : List UInt8 :=
  [r.a, r.b, r.c, r.d, r.e, r.f, r.g, r.h].flatMap fun w =>
    [24, 16, 8, 0].map fun low => .ofBitVec (w.extractLsb' low 8)

/-! ## 4. Bits of bytes -/

theorem length_bitsOf (width n : Nat) : (bitsOf width n).length = width := by
  simp [bitsOf]

theorem bitsOf_succ (width n : Nat) :
    bitsOf (width + 1) n = n.testBit width :: bitsOf width n := by
  rw [bitsOf, List.range_succ_eq_map, List.map_cons, List.map_map]
  congr 1
  refine List.map_congr_left fun i _ => ?_
  rw [Function.comp_apply, show width + 1 - 1 - (i + 1) = width - 1 - i by omega]

/-- The bits of a number are the upper ones and then the lower ones. -/
theorem bitsOf_add (upper lower n : Nat) :
    bitsOf (upper + lower) n = bitsOf upper (n / 2 ^ lower) ++ bitsOf lower n := by
  induction upper with
  | zero => rw [Nat.zero_add]; rfl
  | succ upper ih =>
    rw [Nat.succ_add_eq_add_succ, Nat.add_succ, bitsOf_succ, ih, bitsOf_succ, List.cons_append,
      Nat.testBit_div_two_pow]

theorem bitsOf_mod (width n : Nat) : bitsOf width (n % 2 ^ width) = bitsOf width n := by
  refine List.map_congr_left fun i hi => ?_
  rw [Nat.testBit_mod_two_pow, decide_eq_true, Bool.true_and]
  have := List.mem_range.mp hi
  omega

theorem foldl_bitsOf (width n m : Nat) :
    (bitsOf width n).foldl (fun n b => 2 * n + b.toNat) m = m * 2 ^ width + n % 2 ^ width := by
  induction width generalizing m with
  | zero => simp [bitsOf, Nat.mod_one]
  | succ width ih =>
    rw [bitsOf_succ, List.foldl_cons, ih, Nat.mod_pow_succ, Nat.toNat_testBit, Nat.pow_succ]
    ring

theorem bits_append (front back : List UInt8) : bits (front ++ back) = bits front ++ bits back :=
  List.flatMap_append

theorem length_bits (message : List UInt8) : (bits message).length = 8 * message.length := by
  induction message with
  | nil => rfl
  | cons byte rest ih =>
    change (bitsOf 8 byte.toNat ++ bits rest).length = _
    rw [List.length_append, length_bitsOf, ih, List.length_cons]
    omega

theorem bits_bigEndian (width n : Nat) :
    bits (Bytes.BigEndian.ofNat width n) = bitsOf (8 * width) n := by
  induction width generalizing n with
  | zero => rfl
  | succ width ih =>
    have last : bits [UInt8.ofNat n] = bitsOf 8 n := by
      simp only [bits, List.flatMap_cons, List.flatMap_nil, List.append_nil, UInt8.toNat_ofNat']
      exact bitsOf_mod 8 n
    rw [Bytes.BigEndian.ofNat, bits_append, ih, last, Nat.mul_succ, bitsOf_add]
    rfl

theorem bits_replicate (count : Nat) :
    bits (List.replicate count 0) = List.replicate (8 * count) false := by
  induction count with
  | zero => rfl
  | succ count ih =>
    rw [List.replicate_succ, Nat.mul_succ, Nat.add_comm, List.replicate_add]
    exact congrArg (List.replicate 8 false ++ ·) ih

/-- There are as many zero bits as the end mark has and the zero bytes. -/
theorem fill_eq (length : Nat) : fill (8 * length) = 7 + 8 * Digest.zeros length := by
  rw [fill, Nat.find_eq_iff, Digest.zeros]
  refine ⟨by omega, fun k hk => ?_⟩
  omega

/-- **Padding with bytes is padding with bits.** -/
theorem bits_padded (message : List UInt8) :
    bits (Digest.padded message) = padded (bits message) := by
  have mark : bits (0x80 :: List.replicate (Digest.zeros message.length) 0) =
      true :: List.replicate (fill (8 * message.length)) false := by
    rw [fill_eq, List.replicate_add, ← bits_replicate]
    rfl
  rw [Digest.padded, bits_append, bits_append, bits_bigEndian, mark, padded, length_bits]

/-! ## 5. Words of bytes -/

theorem bits_cons (byte : UInt8) (rest : List UInt8) :
    bits (byte :: rest) = bitsOf 8 byte.toNat ++ bits rest := List.flatMap_cons

theorem bits_drop (count : Nat) (message : List UInt8) :
    bits (message.drop count) = (bits message).drop (8 * count) := by
  induction count generalizing message with
  | zero => rfl
  | succ count ih =>
    cases message with
    | nil => simp [bits]
    | cons byte rest =>
      have past := @List.drop_length_add_append _ (bitsOf 8 byte.toNat) (bits rest) (8 * count)
      rw [length_bitsOf, Nat.add_comm] at past
      rw [List.drop_succ_cons, ih, bits_cons, Nat.mul_succ, past]

theorem bits_take (count : Nat) (message : List UInt8) :
    bits (message.take count) = (bits message).take (8 * count) := by
  induction count generalizing message with
  | zero => rfl
  | succ count ih =>
    cases message with
    | nil => simp [bits]
    | cons byte rest =>
      have past := @List.take_length_add_append _ (bitsOf 8 byte.toNat) (bits rest) (8 * count)
      rw [length_bitsOf, Nat.add_comm] at past
      rw [List.take_succ_cons, bits_cons, ih, bits_cons, Nat.mul_succ, past]

theorem or_eq_add {upper lower : Nat} (places : Nat) (h : lower < 2 ^ places) :
    upper * 2 ^ places ||| lower = upper * 2 ^ places + lower := by
  rw [Nat.mul_comm, Nat.two_pow_add_eq_or_of_lt h]

/-- **Four bytes in a word** are its bits. -/
theorem toBitVec_word (a b c d : UInt8) :
    (a.toUInt32 <<< 24 ||| b.toUInt32 <<< 16 ||| c.toUInt32 <<< 8 ||| d.toUInt32).toBitVec =
      wordOf (bits [a, b, c, d]) := by
  have ha := a.toNat_lt
  have hb := b.toNat_lt
  have hc := c.toNat_lt
  have hd := d.toNat_lt
  have number : (bits [a, b, c, d]).foldl (fun n b => 2 * n + b.toNat) 0 =
      ((a.toNat * 256 + b.toNat) * 256 + c.toNat) * 256 + d.toNat := by
    simp only [bits, List.flatMap_cons, List.flatMap_nil, List.append_nil, List.foldl_append,
      foldl_bitsOf]
    omega
  have places : (a.toUInt32 <<< 24 ||| b.toUInt32 <<< 16 ||| c.toUInt32 <<< 8 ||| d.toUInt32).toNat
      = ((a.toNat * 2 ^ 24 ||| b.toNat * 2 ^ 16) ||| c.toNat * 2 ^ 8) ||| d.toNat := by
    simp only [UInt32.toNat_or, UInt32.toNat_shiftLeft, UInt8.toNat_toUInt32, Nat.shiftLeft_eq]
    change (_ * 2 ^ 24 % 2 ^ 32 ||| _ * 2 ^ 16 % 2 ^ 32) ||| _ * 2 ^ 8 % 2 ^ 32 ||| _ = _
    rw [Nat.mod_eq_of_lt (by omega), Nat.mod_eq_of_lt (by omega), Nat.mod_eq_of_lt (by omega)]
  have sum : ((a.toNat * 2 ^ 24 ||| b.toNat * 2 ^ 16) ||| c.toNat * 2 ^ 8) ||| d.toNat =
      ((a.toNat * 256 + b.toNat) * 256 + c.toNat) * 256 + d.toNat := by
    rw [or_eq_add 24 (by omega), show a.toNat * 2 ^ 24 + b.toNat * 2 ^ 16 =
      (a.toNat * 256 + b.toNat) * 2 ^ 16 by omega, or_eq_add 16 (by omega),
      show (a.toNat * 256 + b.toNat) * 2 ^ 16 + c.toNat * 2 ^ 8 =
        ((a.toNat * 256 + b.toNat) * 256 + c.toNat) * 2 ^ 8 by omega, or_eq_add 8 (by omega)]
    rfl
  rw [wordOf, number, ← sum, ← places]
  rw [← UInt32.toNat_toBitVec, BitVec.ofNat_toNat, BitVec.setWidth_eq]

theorem map_toBitVec_words (bytes : List UInt8) :
    (Digest.words bytes).map UInt32.toBitVec =
      (List.range (bytes.length / 4)).map fun t =>
        wordOf (((bits bytes).drop (32 * t)).take 32) := by
  fun_induction Digest.words bytes with
  | case1 a b c d rest ih =>
    have front : bits (a :: b :: c :: d :: rest) = bits [a, b, c, d] ++ bits rest :=
      bits_append [a, b, c, d] rest
    have four : (bits [a, b, c, d]).length = 32 := length_bits _
    have count : (a :: b :: c :: d :: rest).length / 4 = rest.length / 4 + 1 := by
      simp only [List.length_cons]
      omega
    rw [count, List.range_succ_eq_map, List.map_cons, List.map_cons, List.map_map, ih, front,
      toBitVec_word]
    refine congrArg₂ List.cons ?_ (List.map_congr_left fun t _ => ?_)
    · rw [Nat.mul_zero, List.drop_zero, List.take_left' four]
    · have past := @List.drop_length_add_append _ (bits [a, b, c, d]) (bits rest) (32 * t)
      rw [four, Nat.add_comm] at past
      rw [Function.comp_apply, Nat.mul_succ, past]
  | case2 bytes short =>
    have few : bytes.length < 4 := by
      match bytes, short with
      | [], _ | [_], _ | [_, _], _ | [_, _, _], _ => simp
      | a :: b :: c :: d :: rest, short => exact absurd rfl (short a b c d rest)
    rw [Nat.div_eq_of_lt few]
    rfl

/-- The block with a number, of a message of bytes that has it whole. -/
theorem map_toBitVec_block {bytes : List UInt8} {n : Nat} (h : n < bytes.length / 64) :
    (Digest.words ((bytes.drop (64 * n)).take 64)).map UInt32.toBitVec =
      (List.range 16).map (blockWord (bits bytes) n) := by
  have whole : ((bytes.drop (64 * n)).take 64).length / 4 = 16 := by
    rw [List.length_take, List.length_drop]
    omega
  rw [map_toBitVec_words, whole]
  refine List.map_congr_left fun t ht => ?_
  have ht := List.mem_range.mp ht
  rw [bits_take, bits_drop, List.drop_take, List.drop_drop, List.take_take, blockWord,
    Nat.min_eq_left (by omega), ← Nat.mul_assoc]

/-! ## 6. The window and the schedule -/

/-- The sixteen words of the schedule from a number on. -/
def windowAt (block : Nat → Word) (t : Nat) : List UInt32 :=
  (List.range 16).map fun i => .ofBitVec (schedule block (t + i))

theorem getD_windowAt (block : Nat → Word) (t : Nat) {i : Nat} (h : i < 16) :
    (windowAt block t).getD i 0 = .ofBitVec (schedule block (t + i)) := by
  simp [windowAt, List.getD_eq_getElem?_getD, List.getElem?_range h]

theorem windowAt_zero {block : Nat → Word} {window : List UInt32}
    (same : window.map UInt32.toBitVec = (List.range 16).map block) :
    windowAt block 0 = window := by
  have first : (windowAt block 0).map UInt32.toBitVec = (List.range 16).map block := by
    rw [windowAt, List.map_map]
    refine List.map_congr_left fun i hi => ?_
    rw [Function.comp_apply, Nat.zero_add, schedule, if_pos (List.mem_range.mp hi)]
  exact List.map_injective_iff.mpr (fun _ _ => UInt32.toBitVec_inj.mp) (first.trans same.symm)

theorem toBitVec_lowerSigma0 (x : UInt32) :
    (Digest.turn x 7 ^^^ Digest.turn x 18 ^^^ x >>> 3).toBitVec = lowerSigma0 x.toBitVec := by
  simp [Digest.turn, lowerSigma0, BitVec.rotateRight_def]

theorem toBitVec_lowerSigma1 (x : UInt32) :
    (Digest.turn x 17 ^^^ Digest.turn x 19 ^^^ x >>> 10).toBitVec = lowerSigma1 x.toBitVec := by
  simp [Digest.turn, lowerSigma1, BitVec.rotateRight_def]

/-- The word behind a window is the next of the schedule. -/
theorem toBitVec_scheduled (block : Nat → Word) (t : Nat) :
    (Digest.scheduled (windowAt block t)).toBitVec = schedule block (t + 16) := by
  have late : ¬ t + 16 < 16 := by omega
  rw [schedule, if_neg late, Digest.scheduled, UInt32.toBitVec_add, UInt32.toBitVec_add,
    UInt32.toBitVec_add, toBitVec_lowerSigma0, toBitVec_lowerSigma1,
    getD_windowAt block t (by decide), getD_windowAt block t (by decide),
    getD_windowAt block t (by decide), getD_windowAt block t (by decide),
    show t + 16 - 16 = t + 0 by omega, show t + 16 - 15 = t + 1 by omega,
    show t + 16 - 2 = t + 14 by omega, show t + 16 - 7 = t + 9 by omega]
  ac_rfl

/-- The window moves on by one word. -/
theorem windowAt_succ (block : Nat → Word) (t : Nat) :
    windowAt block (t + 1) =
      (windowAt block t).drop 1 ++ [Digest.scheduled (windowAt block t)] := by
  rw [show Digest.scheduled (windowAt block t) = .ofBitVec (schedule block (t + 16)) from
    UInt32.toBitVec_inj.mp (toBitVec_scheduled block t)]
  have moved : (List.range 16).map (1 + ·) = (List.range 16).drop 1 ++ [16] := by decide
  simp only [windowAt, Nat.add_assoc, ← List.map_drop]
  have both := congrArg (List.map fun i => UInt32.ofBitVec (schedule block (t + i))) moved
  rwa [List.map_map, List.map_append] at both

/-! ## 7. Registers -/

/-- The registers of a running digest. -/
def registers (s : Digest) : Registers :=
  ⟨s.a.toBitVec, s.b.toBitVec, s.c.toBitVec, s.d.toBitVec, s.e.toBitVec, s.f.toBitVec,
    s.g.toBitVec, s.h.toBitVec⟩

theorem registers_turned (s : Digest) (k w : UInt32) :
    registers (Digest.turned s k w) = round k.toBitVec w.toBitVec (registers s) := by
  simp [registers, Digest.turned, Digest.turn, round, upperSigma0, upperSigma1, choice, majority,
    BitVec.rotateRight_def]

theorem registers_start : registers Digest.start = initial := by
  decide +kernel

theorem map_toBitVec_roundWords :
    Digest.roundWords.map UInt32.toBitVec = (List.range 64).map roundConstant := by
  decide +kernel

/-- **The window goes along the schedule.** -/
theorem registers_rounds (block : Nat → Word) {ks : List UInt32} {t : Nat}
    (constants : ks.map UInt32.toBitVec = (List.range' t ks.length).map roundConstant)
    (s : Digest) :
    registers (Digest.rounds ks (windowAt block t) s) =
      (List.range' t ks.length).foldl (fun r t => round (roundConstant t) (schedule block t) r)
        (registers s) := by
  induction ks generalizing t s with
  | nil => rfl
  | cons k ks ih =>
    rw [List.map_cons, List.length_cons, List.range'_succ, List.map_cons] at constants
    obtain ⟨first, rest⟩ := List.cons.inj constants
    rw [Digest.rounds, ← windowAt_succ, ih rest, registers_turned, first,
      getD_windowAt block t (by decide), List.length_cons, List.range'_succ, List.foldl_cons]
    rfl

theorem registers_mixed (s : Digest) {words : List UInt32} {block : Nat → Word}
    (same : words.map UInt32.toBitVec = (List.range 16).map block) :
    registers (Digest.mixed s words) = compressed (registers s) block := by
  have constants := map_toBitVec_roundWords
  rw [List.range_eq_range'] at constants
  have along := registers_rounds block constants s
  rw [windowAt_zero same] at along
  rw [compressed, List.range_eq_range']
  exact along ▸ rfl

theorem absorbed_eq_foldl (blocks : Nat) (s : Digest) (bytes : List UInt8) :
    Digest.absorbed blocks s bytes = (List.range blocks).foldl
      (fun s n => Digest.mixed s (Digest.words ((bytes.drop (64 * n)).take 64))) s := by
  induction blocks generalizing s bytes with
  | zero => rfl
  | succ blocks ih =>
    rw [Digest.absorbed, ih, List.range_succ_eq_map, List.foldl_cons, List.foldl_map]
    simp only [List.drop_drop, Nat.mul_zero, List.drop_zero, Nat.mul_succ, Nat.add_comm]

/-- As far as there are whole blocks, the registers are those of the standard after each. -/
theorem registers_blocks (bytes : List UInt8) (s : Digest) {blocks : Nat}
    (whole : blocks ≤ bytes.length / 64) :
    registers ((List.range blocks).foldl
        (fun s n => Digest.mixed s (Digest.words ((bytes.drop (64 * n)).take 64))) s) =
      (List.range blocks).foldl (fun s n => compressed s (blockWord (bits bytes) n))
        (registers s) := by
  induction blocks with
  | zero => rfl
  | succ blocks ih =>
    rw [List.range_succ, List.foldl_append, List.foldl_append, ← ih (by omega)]
    exact registers_mixed _ (map_toBitVec_block (by omega))

/-- **The running digest is that of the standard**, for every message. -/
theorem registers_ofMessage (message : List UInt8) :
    registers (Digest.ofMessage message) = digest message := by
  have count : (bits (Digest.padded message)).length / 512 =
      (Digest.padded message).length / 64 := by
    rw [length_bits]
    omega
  rw [Digest.ofMessage, digest, ← bits_padded, absorbed_eq_foldl, count, ← registers_start]
  exact registers_blocks _ _ (Nat.le_refl _)

theorem ofBitVec_extract (w : UInt32) (low : Nat) :
    UInt8.ofBitVec (w.toBitVec.extractLsb' low 8) = UInt8.ofNat (w.toNat / 2 ^ low) := by
  rw [← UInt8.toNat_inj]
  simp [Nat.shiftRight_eq_div_pow]

/-- Registers are written as the running digest is. -/
theorem bytes_registers (s : Digest) : (registers s).bytes = s.bytes := by
  have four (w : UInt32) : ([24, 16, 8, 0].map fun low =>
      UInt8.ofBitVec (w.toBitVec.extractLsb' low 8)) = Bytes.BigEndian.ofNat 4 w.toNat := by
    simp only [ofBitVec_extract, Bytes.BigEndian.ofNat, List.map_cons, List.map_nil,
      List.nil_append, List.cons_append, Nat.div_div_eq_div_mul, Nat.pow_zero, Nat.div_one]
    rfl
  simp only [Registers.bytes, registers, Digest.bytes, Digest.toWords, List.flatMap_cons, four,
    List.flatMap_nil]

/-- Registers tell running digests apart. -/
theorem registers_inj {s t : Digest} : registers s = registers t ↔ s = t := by
  cases s
  cases t
  simp [registers, UInt32.toBitVec_inj]

end TokenRotation.Sha256
