import Mathlib.Data.List.Basic
import Mathlib.Data.List.Induction
import TokenRotation.Settings.SocketAddress

/-!
# Numerals

A numeral is a row of digits, of which each counts for the base times more than the one after it. It
says nothing of how the row is read: numbers in settings fill their text, while the numbers inside
an address are cut off the front of it. Each reader takes exactly the numerals of its form.

* `Decimal.unsigned?_eq_some_iff`, `Decimal.signed?_eq_some_iff` -- numbers that fill a text;
* `Reader.number_eq_some_iff` -- **a number at the front ends where no further digit follows**.
-/

namespace TokenRotation.Settings

/-! ## 1. Digits -/

/-- The character is a digit of a base, for the number of its place in the row of digits; letters
    count in either case. -/
def IsDigit (base : Nat) (c : Char) (d : Nat) : Prop :=
  d < base ∧ ("0123456789abcdef".toList[d]? = some c ∨ "0123456789ABCDEF".toList[d]? = some c)

instance (base : Nat) (c : Char) (d : Nat) : Decidable (IsDigit base c d) :=
  inferInstanceAs (Decidable (_ ∧ _))

theorem IsDigit.lt {base : Nat} {c : Char} {d : Nat} (h : IsDigit base c d) : d < 16 := by
  rcases h.2 with hc | hc <;> exact (List.getElem?_eq_some_iff.mp hc).1

namespace Reader

/-- The value of a digit does not depend on the base. -/
theorem digit?_eq_some_iff_of_sixteen {base : Nat} (small : base ≤ 16) {c : Char} {d : Nat} :
    digit? base c = some d ↔ digit? 16 c = some d ∧ d < base := by
  simp only [digit?, Option.filter_eq_some_iff, decide_eq_true_eq]
  exact ⟨fun h => ⟨⟨h.1, by omega⟩, h.2⟩, fun h => ⟨h.1.1, h.2⟩⟩

/-- Only ASCII characters are digits. -/
theorem toNat_lt_of_digit? {c : Char} {d : Nat} (h : digit? 16 c = some d) : c.toNat < 128 := by
  have below {e : Char} (hle : c ≤ e) : c.toNat ≤ e.toNat := hle
  simp only [digit?, Option.filter_eq_some_iff] at h
  have h := h.1
  split at h
  · next hdigit =>
    simp only [Char.isDigit, Bool.and_eq_true, decide_eq_true_eq] at hdigit
    exact Nat.lt_of_le_of_lt (below hdigit.2) (by decide)
  · split at h
    · next hrange => exact Nat.lt_of_le_of_lt (below hrange.2) (by decide)
    · split at h
      · next hrange => exact Nat.lt_of_le_of_lt (below hrange.2) (by decide)
      · cases h

/-- **A digit is read as its place.** -/
theorem digit?_eq_some_iff {base : Nat} (small : base ≤ 16) {c : Char} {d : Nat} :
    digit? base c = some d ↔ IsDigit base c d := by
  rw [digit?_eq_some_iff_of_sixteen small]
  constructor
  · rintro ⟨h, hd⟩
    have all : ∀ m : Fin 128, ∀ d ∈ digit? 16 (Char.ofNat m), IsDigit 16 (Char.ofNat m) d := by
      decide
    have hc := all ⟨c.toNat, toNat_lt_of_digit? h⟩ d
    simp only [Char.ofNat_toNat] at hc
    exact ⟨hd, (hc h).2⟩
  · intro h
    have lower : ∀ d : Fin 16,
        digit? 16 ("0123456789abcdef".toList[d.val]?.getD ' ') = some d.val := by decide
    have upper : ∀ d : Fin 16,
        digit? 16 ("0123456789ABCDEF".toList[d.val]?.getD ' ') = some d.val := by decide
    rcases h.2 with hc | hc
    · have hd := lower ⟨d, h.lt⟩
      rw [hc] at hd
      exact ⟨hd, h.1⟩
    · have hd := upper ⟨d, h.lt⟩
      rw [hc] at hd
      exact ⟨hd, h.1⟩

end Reader

/-! ## 2. Rows of digits -/

/-- The text is a row of digits for a number. -/
inductive Numeral (base : Nat) : List Char → Nat → Prop
  | one {c : Char} {d : Nat} : IsDigit base c d → Numeral base [c] d
  | snoc {text : List Char} {n : Nat} {c : Char} {d : Nat} :
      Numeral base text n → IsDigit base c d → Numeral base (text ++ [c]) (n * base + d)

/-- The value of a row of digits, one after the other. -/
def rowValue (base : Nat) (digits : List Char) : Nat :=
  digits.foldl (fun n c => n * base + (Reader.digit? base c).getD 0) 0

theorem rowValue_append_singleton (base : Nat) (digits : List Char) (c : Char) :
    rowValue base (digits ++ [c]) =
      rowValue base digits * base + (Reader.digit? base c).getD 0 := by
  simp only [rowValue, List.foldl_append, List.foldl_cons, List.foldl_nil]

/-- Every row of one digit or more is a numeral, for its value. -/
theorem numeral_iff {base : Nat} (small : base ≤ 16) {text : List Char} {n : Nat} :
    Numeral base text n ↔ text ≠ [] ∧
      (∀ c ∈ text, (Reader.digit? base c).isSome) ∧ rowValue base text = n := by
  constructor
  · intro h
    induction h with
    | one hd =>
      have hd := (Reader.digit?_eq_some_iff small).mpr hd
      simp [rowValue, hd]
    | snoc _ hd ih =>
      have hd := (Reader.digit?_eq_some_iff small).mpr hd
      obtain ⟨-, all, rfl⟩ := ih
      refine ⟨by simp, fun c hc => ?_, ?_⟩
      · rcases List.mem_append.mp hc with hc | hc
        · exact all c hc
        · rw [List.mem_singleton.mp hc, hd]
          rfl
      · rw [rowValue_append_singleton, hd, Option.getD_some]
  · rintro ⟨hne, all, rfl⟩
    induction text using List.reverseRecOn with
    | nil => exact absurd rfl hne
    | append_singleton init c ih =>
      obtain ⟨d, hd⟩ := Option.isSome_iff_exists.mp (all c (by simp))
      have digit := (Reader.digit?_eq_some_iff small).mp hd
      rw [rowValue_append_singleton, hd, Option.getD_some]
      by_cases hinit : init = []
      · subst hinit
        simpa [rowValue] using Numeral.one digit
      · exact .snoc (ih hinit fun e he => all e (by simp [he])) digit

/-! ## 3. Numbers that fill a text -/

/-- A numeral to base ten, after a plus sign or none. -/
inductive Unsigned : List Char → Nat → Prop
  | bare {text : List Char} {n : Nat} : Numeral 10 text n → Unsigned text n
  | plus {text : List Char} {n : Nat} : Numeral 10 text n → Unsigned ('+' :: text) n

/-- A numeral to base ten, after a sign or none. -/
inductive Signed : List Char → Int → Prop
  | bare {text : List Char} {n : Nat} : Numeral 10 text n → Signed text n
  | plus {text : List Char} {n : Nat} : Numeral 10 text n → Signed ('+' :: text) n
  | minus {text : List Char} {n : Nat} : Numeral 10 text n → Signed ('-' :: text) (-n)

namespace Decimal

theorem digit?_ten (c : Char) :
    Reader.digit? 10 c = if c.isDigit then some (c.toNat - 48) else none := by
  unfold Reader.digit?
  split
  · next hdigit =>
    simp only [Char.isDigit, Bool.and_eq_true, decide_eq_true_eq] at hdigit
    have hle : c.toNat ≤ 57 := hdigit.2
    simp only [Option.filter_some, decide_eq_true_eq]
    rw [if_pos (by omega)]
  · split
    · next hrange =>
      have hle : 97 ≤ c.toNat := hrange.1
      simp only [Option.filter_some, decide_eq_true_eq]
      rw [if_neg (by omega)]
    · split
      · next hrange =>
        have hle : 65 ≤ c.toNat := hrange.1
        simp only [Option.filter_some, decide_eq_true_eq]
        rw [if_neg (by omega)]
      · rfl

theorem value_eq_rowValue {text : List Char} (digits : ∀ c ∈ text, c.isDigit) :
    value text = rowValue 10 text := by
  refine List.foldl_ext _ _ _ fun n c hc => ?_
  rw [digit?_ten, if_pos (digits c hc), Option.getD_some]

/-- **The reader takes exactly the numerals.** -/
theorem natural?_eq_some_iff {text : List Char} {n : Nat} :
    natural? text = some n ↔ Numeral 10 text n := by
  have isSome (c : Char) : (Reader.digit? 10 c).isSome = c.isDigit := by
    rw [digit?_ten]
    cases c.isDigit <;> rfl
  simp only [numeral_iff (show 10 ≤ 16 by decide), isSome, natural?, List.all_eq_true]
  constructor
  · intro h
    split at h
    · next digits => exact ⟨digits.1, digits.2, value_eq_rowValue digits.2 ▸ Option.some.inj h⟩
    · cases h
  · rintro ⟨hne, digits, rfl⟩
    rw [if_pos ⟨hne, digits⟩, value_eq_rowValue digits]

/-- A numeral begins with no sign. -/
theorem natural?_cons_of_not_digit {c : Char} {text : List Char} (h : c.isDigit = false) :
    natural? (c :: text) = none := by
  simp [natural?, h]

theorem not_numeral_cons {c : Char} {text : List Char} (h : c.isDigit = false) (n : Nat) :
    ¬ Numeral 10 (c :: text) n := by
  rw [← natural?_eq_some_iff, natural?_cons_of_not_digit h]
  exact Option.some_ne_none n ∘ Eq.symm

/-- Only a plus sign before a numeral is taken off. -/
theorem unsigned_iff {text : List Char} {n : Nat} :
    Unsigned text n ↔
      natural? (match text with | '+' :: rest => rest | all => all) = some n := by
  rw [natural?_eq_some_iff]
  constructor
  · rintro (h | h)
    · split
      · exact absurd h (not_numeral_cons rfl n)
      · exact h
    · exact h
  · split
    · exact .plus
    · exact .bare

/-- **A number without a minus sign**: a numeral up to the greatest value. -/
theorem unsigned?_eq_some_iff {greatest n : Nat} {text : String} :
    unsigned? greatest text = some n ↔ Unsigned text.toList n ∧ n ≤ greatest := by
  rw [unsigned_iff]
  unfold unsigned?
  extract_lets digits
  change _ ↔ natural? digits = some n ∧ _
  generalize natural? digits = read
  cases read with
  | none => simp
  | some m => grind

/-- Only a sign before a numeral is taken off, and the minus sign counts. -/
theorem signed_iff {text : List Char} {n : Int} :
    Signed text n ↔
      (match text with
        | '+' :: rest => (natural? rest).map Int.ofNat
        | '-' :: rest => (natural? rest).map fun n => -Int.ofNat n
        | all => (natural? all).map Int.ofNat) = some n := by
  constructor
  · rintro (@⟨_, m, h⟩ | @⟨_, m, h⟩ | @⟨_, m, h⟩)
    · split
      · exact absurd h (not_numeral_cons rfl m)
      · exact absurd h (not_numeral_cons rfl m)
      · rw [natural?_eq_some_iff.mpr h]
        rfl
    · simp only [natural?_eq_some_iff.mpr h]
      rfl
    · simp only [natural?_eq_some_iff.mpr h]
      rfl
  · split
    · simp only [Option.map_eq_some_iff, natural?_eq_some_iff]
      rintro ⟨m, h, rfl⟩
      exact .plus h
    · simp only [Option.map_eq_some_iff, natural?_eq_some_iff]
      rintro ⟨m, h, rfl⟩
      exact .minus h
    · simp only [Option.map_eq_some_iff, natural?_eq_some_iff]
      rintro ⟨m, h, rfl⟩
      exact .bare h

/-- **A number with a sign or none**: a numeral within its bounds. -/
theorem signed?_eq_some_iff {least greatest n : Int} {text : String} :
    signed? least greatest text = some n ↔
      Signed text.toList n ∧ least ≤ n ∧ n ≤ greatest := by
  rw [signed_iff]
  unfold signed?
  extract_lets read
  change _ ↔ read = some n ∧ _
  clear_value read
  cases read with
  | none => simp
  | some m => grind

end Decimal

/-! ## 4. Numbers at the front of a text -/

namespace Reader

/-- The text is a numeral of the form. -/
structure NumberForm.Writes (form : NumberForm) (text : List Char) (n : Nat) : Prop where
  numeral : Numeral form.base text n
  short : ∀ most ∈ form.maxDigits, text.length ≤ most
  needless : form.leadingZeros = false → text.head? = some '0' → text = ['0']
  below : n < form.bound

/-- No digit follows. -/
def EndsNumeral (base : Nat) (rest : List Char) : Prop :=
  ∀ c ∈ rest.head?, (digit? base c).isSome = false

theorem endsNumeral_nil (base : Nat) : EndsNumeral base [] := by simp [EndsNumeral]

theorem endsNumeral_cons {base : Nat} {c : Char} {rest : List Char} :
    EndsNumeral base (c :: rest) ↔ (digit? base c).isSome = false := by
  simp [EndsNumeral]

/-- All digits at the front of a text, before something that is none. -/
theorem takeWhile_digits {base : Nat} {digits rest : List Char}
    (all : ∀ c ∈ digits, (digit? base c).isSome) (ends : EndsNumeral base rest) :
    (digits ++ rest).takeWhile (fun c => (digit? base c).isSome) = digits := by
  rw [List.takeWhile_append_of_pos all]
  cases rest with
  | nil => simp
  | cons c rest => rw [List.takeWhile_cons_of_neg (by simp [endsNumeral_cons.mp ends]),
      List.append_nil]

theorem endsNumeral_dropWhile (base : Nat) (text : List Char) :
    EndsNumeral base (text.dropWhile fun c => (digit? base c).isSome) := by
  intro c hc
  have := List.head?_dropWhile_not (fun c => (digit? base c).isSome) text
  grind

/-- A zero at the front of a row is needless unless it is the whole row. -/
theorem eq_zero_iff_length {digits : List Char} (first : digits.head? = some '0') :
    digits = ['0'] ↔ digits.length = 1 := by
  cases digits with
  | nil => cases first
  | cons c rest =>
    cases Option.some.inj first
    simp

/-- All digits at the front count, and what follows them is left. -/
theorem number_append {form : NumberForm} (small : form.base ≤ 16) {digits rest left : List Char}
    {n : Nat} (all : ∀ c ∈ digits, (digit? form.base c).isSome)
    (ends : EndsNumeral form.base rest) :
    number form (digits ++ rest) = some (n, left) ↔ form.Writes digits n ∧ rest = left := by
  have opened : number form (digits ++ rest) =
      if digits.isEmpty then none
      else if form.maxDigits.any (· < digits.length) then none
      else if !form.leadingZeros && digits.length ≠ 1 && digits.head? = some '0' then none
      else if rowValue form.base digits < form.bound then some (rowValue form.base digits, rest)
      else none := by
    simp only [number, takeWhile_digits all ends, List.drop_left]
    rfl
  rw [opened]
  constructor
  · intro h
    split at h
    · cases h
    · next filled =>
      split at h
      · cases h
      · next short =>
        split at h
        · cases h
        · next needed =>
          split at h
          · next below =>
            cases h
            refine ⟨⟨(numeral_iff small).mpr ⟨by simpa using filled, all, rfl⟩, ?_, ?_, below⟩, rfl⟩
            · intro most hmost
              simpa [Option.mem_def.mp hmost] using short
            · intro strict first
              simpa [strict, first, eq_zero_iff_length first] using needed
          · cases h
  · rintro ⟨written, rfl⟩
    obtain ⟨filled, -, hvalue⟩ := (numeral_iff small).mp written.numeral
    have short : ¬ form.maxDigits.any (fun most => decide (most < digits.length)) := by
      simpa [Option.any_eq_true] using written.short
    have needed : ¬ (!form.leadingZeros && digits.length ≠ 1 && digits.head? = some '0') := by
      simp only [Bool.and_eq_true, Bool.not_eq_true', decide_eq_true_eq]
      rintro ⟨⟨strict, hlength⟩, first⟩
      exact hlength ((eq_zero_iff_length first).mp (written.needless strict first))
    rw [if_neg (by simpa using filled), if_neg short, if_neg needed, hvalue, if_pos written.below]

/-- **A number at the front is a numeral of its form that no further digit follows.** -/
theorem number_eq_some_iff {form : NumberForm} (small : form.base ≤ 16) {text rest : List Char}
    {n : Nat} :
    number form text = some (n, rest) ↔
      ∃ digits, text = digits ++ rest ∧ form.Writes digits n ∧ EndsNumeral form.base rest := by
  constructor
  · intro h
    have split_text := List.takeWhile_append_dropWhile (l := text)
      (p := fun c => (digit? form.base c).isSome)
    have ends := endsNumeral_dropWhile form.base text
    have all : ∀ c ∈ text.takeWhile fun c => (digit? form.base c).isSome,
      (digit? form.base c).isSome := List.all_eq_true.mp List.all_takeWhile
    rw [← split_text] at h ⊢
    obtain ⟨written, rfl⟩ := (number_append small all ends).mp h
    exact ⟨_, rfl, written, ends⟩
  · rintro ⟨digits, rfl, written, ends⟩
    obtain ⟨-, all, -⟩ := (numeral_iff small).mp written.numeral
    exact (number_append small all ends).mpr ⟨written, rfl⟩

end Reader

end TokenRotation.Settings
