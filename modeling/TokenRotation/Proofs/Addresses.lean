import TokenRotation.Proofs.Numerals

/-!
# The grammar of socket addresses

What a socket address looks like, said of whole texts and without a reader: bytes between dots,
groups between colons of which one run may be left out, a zone, a port. The reader goes through the
text from the front, takes as much as it can of every piece and never goes back further than one
group. It takes exactly the addresses of the grammar, each for the address that it stands for.

The reader tries four bytes wherever a group can stand. Such a try can only go through where a dot
follows the digits, and no group is followed by one, so that nothing of the grammar is lost.

* `Reader.ipv4_eq_some_iff` -- four bytes at the front of a text;
* `Reader.groups_of_isRow`, `Reader.isRow_of_groups` -- a row of groups is read whole;
* `Reader.ipv6_of_isIpv6`, `Reader.isIpv6_of_ipv6` -- hosts of eight groups;
* `SocketAddress.ofText?_eq_some_iff` -- **the reader takes exactly the grammar**.
-/

namespace TokenRotation.Settings

/-! ## 1. The grammar -/

/-- A byte: a numeral to base ten without a needless zero. -/
def IsByte (text : List Char) (b : UInt8) : Prop :=
  Numeral 10 text b.toNat ∧ (text.head? = some '0' → text = ['0'])

/-- A group: up to four digits to base sixteen. -/
def IsGroup (text : List Char) (g : UInt16) : Prop :=
  Numeral 16 text g.toNat ∧ text.length ≤ 4

/-- A port: a numeral to base ten. -/
def IsPort (text : List Char) (port : UInt16) : Prop := Numeral 10 text port.toNat

/-- Four bytes between dots. -/
inductive IsIpv4 : List Char → Ipv4 → Prop
  | mk {a b c d : List Char} {host : Ipv4} : IsByte a host.a → IsByte b host.b → IsByte c host.c →
      IsByte d host.d → IsIpv4 (a ++ '.' :: (b ++ '.' :: (c ++ '.' :: d))) host

/-- A row of groups between colons, which may end in four bytes. -/
inductive IsRow : (endsInBytes : Bool) → List Char → List UInt16 → Prop
  | group {text : List Char} {g : UInt16} : IsGroup text g → IsRow false text [g]
  | bytes {text : List Char} {host : Ipv4} : IsIpv4 text host → IsRow true text host.groups
  | cons {ends : Bool} {text rest : List Char} {g : UInt16} {gs : List UInt16} :
      IsGroup text g → IsRow ends rest gs → IsRow ends (text ++ ':' :: rest) (g :: gs)

/-- A row of groups, or nothing. -/
def IsPart (endsInBytes : Bool) (text : List Char) (gs : List UInt16) : Prop :=
  IsRow endsInBytes text gs ∨ (endsInBytes = false ∧ text = [] ∧ gs = [])

/-- Eight groups, or fewer around a double colon that stands for the zeros that are missing, one at
    least. Four bytes only stand at the end. -/
inductive IsIpv6 : List Char → Ipv6 → Prop
  | whole {ends : Bool} {text : List Char} {host : Ipv6} :
      IsRow ends text host.groups.toList → IsIpv6 text host
  | short {ends : Bool} {left right : List Char} {head tail : List UInt16} {zeros : Nat}
      {host : Ipv6} : IsPart false left head → IsPart ends right tail →
      head.length + (zeros + 1) + tail.length = 8 →
      host.groups.toList = head ++ List.replicate (zeros + 1) 0 ++ tail →
      IsIpv6 (left ++ ':' :: ':' :: right) host

/-- A percent sign and the number of a zone; where nothing stands the zone is zero. -/
inductive IsZone : List Char → UInt32 → Prop
  | none : IsZone [] 0
  | some {text : List Char} {zone : UInt32} : Numeral 10 text zone.toNat →
      IsZone ('%' :: text) zone

/-- A host and a port; a host of eight groups stands in brackets, together with its zone. -/
inductive IsSocketAddress : List Char → SocketAddress → Prop
  | v4 {text digits : List Char} {host : Ipv4} {port : UInt16} :
      IsIpv4 text host → IsPort digits port →
      IsSocketAddress (text ++ ':' :: digits) (.v4 host port)
  | v6 {text inside digits : List Char} {host : Ipv6} {zone : UInt32} {port : UInt16} :
      IsIpv6 text host → IsZone inside zone → IsPort digits port →
      IsSocketAddress ('[' :: (text ++ (inside ++ ']' :: ':' :: digits))) (.v6 host zone port)

/-! ## 2. Numbers of addresses -/

/-- A numeral is at least as great as its length says, if it has no needless zero. -/
theorem Numeral.pow_le {text : List Char} {n : Nat} (h : Numeral 10 text n)
    (first : text.head? ≠ some '0') : Nat.pow 10 (text.length - 1) ≤ n := by
  induction h with
  | @one c d hd =>
    have nonzero : d ≠ 0 := by
      rintro rfl
      have hc : c = '0' := by
        rcases hd.2 with hc | hc <;> exact (Option.some.inj hc).symm
      exact first (hc ▸ rfl)
    simpa using Nat.one_le_iff_ne_zero.mpr nonzero
  | @snoc text n c d h hd ih =>
    have hne : text ≠ [] := ((numeral_iff (by decide)).mp h).1
    obtain ⟨most, hmost⟩ :=
      Nat.exists_eq_succ_of_ne_zero (mt List.eq_nil_of_length_eq_zero hne)
    have hfirst : text.head? ≠ some '0' := by
      rwa [List.head?_append_of_ne_nil _ hne] at first
    have hpow : Nat.pow 10 ((text ++ [c]).length - 1) = Nat.pow 10 (text.length - 1) * 10 := by
      rw [List.length_append, List.length_singleton, hmost]
      rfl
    have := ih hfirst
    omega

theorem IsByte.length_le {text : List Char} {b : UInt8} (h : IsByte text b) :
    text.length ≤ 3 := by
  by_cases first : text.head? = some '0'
  · rw [h.2 first]
    decide
  · have hle := h.1.pow_le first
    have hb := b.toNat_lt
    by_contra long
    have hpow : Nat.pow 10 3 ≤ Nat.pow 10 (text.length - 1) :=
      Nat.pow_le_pow_right (by decide) (by omega)
    have thousand : Nat.pow 10 3 = 1000 := rfl
    omega

namespace Reader

@[simp] theorem char_eq_some_iff {c : Char} {text rest : List Char} {u : Unit} :
    char c text = some (u, rest) ↔ text = c :: rest := by
  unfold char
  split
  · split <;> simp_all
  · simp

/-- A byte at the front of a text. -/
theorem byte_eq_some_iff {text rest : List Char} {b : UInt8} :
    byte text = some (b, rest) ↔
      ∃ digits, text = digits ++ rest ∧ IsByte digits b ∧ EndsNumeral 10 rest := by
  simp only [byte, Option.bind_eq_bind, Option.bind_eq_some_iff, Prod.exists,
    @number_eq_some_iff ⟨10, some 3, false, 256⟩ (by decide), Option.some.injEq, Prod.mk.injEq]
  constructor
  · rintro ⟨n, _, ⟨digits, htext, written, ends⟩, rfl, rfl⟩
    have hn : (UInt8.ofNat n).toNat = n := Nat.mod_eq_of_lt written.below
    exact ⟨digits, htext, ⟨hn.symm ▸ written.numeral, written.needless rfl⟩, ends⟩
  · rintro ⟨digits, htext, written, ends⟩
    refine ⟨b.toNat, rest, ⟨digits, htext, ⟨written.1, ?_, fun _ => written.2, b.toNat_lt⟩, ends⟩,
      UInt8.ofNat_toNat, rfl⟩
    rintro most ⟨⟩
    exact written.length_le

/-- A group at the front of a text. -/
theorem group_eq_some_iff {text rest : List Char} {g : UInt16} :
    group text = some (g, rest) ↔
      ∃ digits, text = digits ++ rest ∧ IsGroup digits g ∧ EndsNumeral 16 rest := by
  simp only [group, Option.bind_eq_bind, Option.bind_eq_some_iff, Prod.exists,
    @number_eq_some_iff ⟨16, some 4, true, 65536⟩ (by decide), Option.some.injEq, Prod.mk.injEq]
  constructor
  · rintro ⟨n, _, ⟨digits, htext, written, ends⟩, rfl, rfl⟩
    have hn : (UInt16.ofNat n).toNat = n := Nat.mod_eq_of_lt written.below
    exact ⟨digits, htext, ⟨hn.symm ▸ written.numeral, written.short 4 rfl⟩, ends⟩
  · rintro ⟨digits, htext, written, ends⟩
    refine ⟨g.toNat, rest, ⟨digits, htext, ⟨written.1, ?_, nofun, g.toNat_lt⟩, ends⟩,
      UInt16.ofNat_toNat, rfl⟩
    rintro most ⟨⟩
    exact written.2

/-! ## 3. Four bytes -/

theorem endsNumeral_dot (base : Nat) (rest : List Char) : EndsNumeral base ('.' :: rest) := by
  rw [endsNumeral_cons]
  rfl

theorem endsNumeral_colon (base : Nat) (rest : List Char) : EndsNumeral base (':' :: rest) := by
  rw [endsNumeral_cons]
  rfl

/-- Four bytes at the front of a text. -/
theorem ipv4_eq_some_iff {text rest : List Char} {host : Ipv4} :
    ipv4 text = some (host, rest) ↔
      ∃ front, text = front ++ rest ∧ IsIpv4 front host ∧ EndsNumeral 10 rest := by
  simp only [ipv4, Option.bind_eq_bind, Option.bind_eq_some_iff, Prod.exists, byte_eq_some_iff,
    char_eq_some_iff, Option.some.injEq, Prod.mk.injEq]
  constructor
  · rintro ⟨a, _, ⟨ta, rfl, ha, -⟩, _, _, rfl, b, _, ⟨tb, rfl, hb, -⟩, _, _, rfl, c, _,
      ⟨tc, rfl, hc, -⟩, _, _, rfl, d, _, ⟨td, rfl, hd, ends⟩, rfl, rfl⟩
    exact ⟨ta ++ '.' :: (tb ++ '.' :: (tc ++ '.' :: td)), by simp, ⟨ha, hb, hc, hd⟩, ends⟩
  · rintro ⟨_, rfl, @⟨ta, tb, tc, td, _, ha, hb, hc, hd⟩, ends⟩
    refine ⟨_, '.' :: (tb ++ '.' :: (tc ++ '.' :: (td ++ rest))),
      ⟨ta, by simp, ha, endsNumeral_dot _ _⟩, (), _, rfl, _, '.' :: (tc ++ '.' :: (td ++ rest)),
      ⟨tb, rfl, hb, endsNumeral_dot _ _⟩, (), _, rfl, _, '.' :: (td ++ rest),
      ⟨tc, rfl, hc, endsNumeral_dot _ _⟩, (), _, rfl, _, rest, ⟨td, rfl, hd, ends⟩, rfl, rfl⟩

/-- A digit to a smaller base is one to base sixteen. -/
theorem isDigits_of_numeral {base : Nat} (small : base ≤ 16) {text : List Char} {n : Nat}
    (h : Numeral base text n) : text ≠ [] ∧ ∀ c ∈ text, (digit? 16 c).isSome := by
  obtain ⟨hne, all, -⟩ := (numeral_iff small).mp h
  refine ⟨hne, fun c hc => ?_⟩
  obtain ⟨d, hd⟩ := Option.isSome_iff_exists.mp (all c hc)
  rw [((digit?_eq_some_iff_of_sixteen small).mp hd).1]
  rfl

/-- The first thing that is no digit to base sixteen is a dot. -/
theorem dot_of_ipv4 {text rest : List Char} {host : Ipv4} (h : ipv4 text = some (host, rest)) :
    (text.dropWhile fun c => (digit? 16 c).isSome).head? = some '.' := by
  obtain ⟨_, rfl, @⟨a, b, c, d, _, ha, -⟩, -⟩ := ipv4_eq_some_iff.mp h
  obtain ⟨-, all⟩ := isDigits_of_numeral (by decide) ha.1
  rw [List.append_assoc, List.dropWhile_append_of_pos all]
  rfl

/-- A group that no dot follows is not taken for four bytes. -/
theorem ipv4_of_isGroup {digits rest : List Char} {g : UInt16} (written : IsGroup digits g)
    (ends : EndsNumeral 16 rest) (nodot : rest.head? ≠ some '.') :
    ipv4 (digits ++ rest) = none := by
  refine Option.eq_none_iff_forall_ne_some.mpr fun ⟨host, left⟩ h => nodot ?_
  obtain ⟨-, all⟩ := isDigits_of_numeral (by decide) written.1
  have dot := dot_of_ipv4 h
  rw [List.dropWhile_append_of_pos all] at dot
  cases rest with
  | nil => exact dot
  | cons c rest =>
    rw [List.dropWhile_cons_of_neg (by simpa using endsNumeral_cons.mp ends)] at dot
    exact dot

/-! ## 4. Rows of groups -/

/-- A row of groups ends here: there is nothing more, or a double colon, or what follows a host. -/
inductive EndsRow : List Char → Prop
  | nil : EndsRow []
  | bracket {rest : List Char} : EndsRow (']' :: rest)
  | zone {rest : List Char} : EndsRow ('%' :: rest)
  | colons {rest : List Char} : EndsRow (':' :: ':' :: rest)

theorem EndsRow.endsNumeral {base : Nat} {rest : List Char} (h : EndsRow rest) :
    EndsNumeral base rest := by
  cases h with
  | nil => exact endsNumeral_nil base
  | bracket | zone | colons =>
    rw [endsNumeral_cons]
    rfl

theorem EndsRow.head?_ne {rest : List Char} (h : EndsRow rest) : rest.head? ≠ some '.' := by
  cases h <;> simp

/-- What is read as a row begins with a colon unless it is the first. -/
def leading (first : Bool) (text : List Char) : List Char := if first then text else ':' :: text

theorem afterColon_leading {α : Type} (first : Bool) (piece : Reader α) (text : List Char) :
    afterColon first piece (leading first text) = piece text := by
  cases first <;> simp [afterColon, leading, char]

theorem afterColon_eq_some_iff {α : Type} {first : Bool} {piece : Reader α} {text : List Char}
    {read : α × List Char} :
    afterColon first piece text = some read ↔
      ∃ inner, text = leading first inner ∧ piece inner = some read := by
  cases first <;> simp [afterColon, leading, Option.bind_eq_some_iff]

/-- The text begins with a digit to base sixteen. -/
def BeginsWithDigit (text : List Char) : Prop :=
  ∃ c rest, text = c :: rest ∧ (digit? 16 c).isSome

theorem beginsWithDigit_of_numeral {base : Nat} (small : base ≤ 16) {text : List Char} {n : Nat}
    (h : Numeral base text n) (rest : List Char) : BeginsWithDigit (text ++ rest) := by
  obtain ⟨hne, all⟩ := isDigits_of_numeral small h
  obtain ⟨c, digits, rfl⟩ := List.exists_cons_of_ne_nil hne
  exact ⟨c, digits ++ rest, rfl, all c List.mem_cons_self⟩

theorem beginsWithDigit_of_group {text rest : List Char} {g : UInt16}
    (h : group text = some (g, rest)) : BeginsWithDigit text := by
  obtain ⟨digits, rfl, written, -⟩ := group_eq_some_iff.mp h
  exact beginsWithDigit_of_numeral (by decide) written.1 rest

theorem beginsWithDigit_of_ipv4 {text rest : List Char} {host : Ipv4}
    (h : ipv4 text = some (host, rest)) : BeginsWithDigit text := by
  obtain ⟨_, rfl, ⟨ha, -⟩, -⟩ := ipv4_eq_some_iff.mp h
  rw [List.append_assoc]
  exact beginsWithDigit_of_numeral (by decide) ha.1 _

theorem not_endsRow_leading {first : Bool} {text : List Char} (h : BeginsWithDigit text) :
    ¬ EndsRow (leading first text) := by
  obtain ⟨c, rest, rfl, hc⟩ := h
  cases first <;> intro ends <;> cases ends <;> cases hc

theorem afterColon_of_endsRow {α : Type} {piece : Reader α}
    (begins : ∀ {text a rest}, piece text = some (a, rest) → BeginsWithDigit text)
    {rest : List Char} (ends : EndsRow rest) (first : Bool) :
    afterColon first piece rest = none := by
  refine Option.eq_none_iff_forall_ne_some.mpr fun ⟨a, left⟩ h => ?_
  obtain ⟨inner, rfl, hinner⟩ := afterColon_eq_some_iff.mp h
  exact not_endsRow_leading (begins hinner) ends

/-- Nothing of a row is read where a row ends. -/
theorem groups_of_endsRow {rest : List Char} (ends : EndsRow rest) (limit : Nat) (first : Bool) :
    groups limit first rest = ⟨[], false, rest⟩ := by
  cases limit with
  | zero => rfl
  | succ limit =>
    simp [groups, afterColon_of_endsRow beginsWithDigit_of_group ends,
      afterColon_of_endsRow beginsWithDigit_of_ipv4 ends]

/-- **A row of groups that fits is read whole.** -/
theorem groups_of_isRow {endsInBytes : Bool} {text rest : List Char} {gs : List UInt16}
    (row : IsRow endsInBytes text gs) (ends : EndsRow rest) {limit : Nat} (fits : gs.length ≤ limit)
    (first : Bool) :
    groups limit first (leading first (text ++ rest)) = ⟨gs, endsInBytes, rest⟩ := by
  induction row generalizing limit first with
  | @group text g written =>
    obtain ⟨limit, rfl⟩ : ∃ m, limit = m + 1 := ⟨limit - 1, by simp at fits; omega⟩
    have bytes : ipv4 (text ++ rest) = none :=
      ipv4_of_isGroup written ends.endsNumeral ends.head?_ne
    have read : group (text ++ rest) = some (g, rest) :=
      group_eq_some_iff.mpr ⟨text, rfl, written, ends.endsNumeral⟩
    simp [groups, afterColon_leading, bytes, read, groups_of_endsRow ends]
  | @bytes text host written =>
    obtain ⟨limit, rfl⟩ : ∃ m, limit = m + 1 := ⟨limit - 1, by simp [Ipv4.groups] at fits; omega⟩
    have room : limit ≠ 0 := by
      rintro rfl
      simp [Ipv4.groups] at fits
    have read : ipv4 (text ++ rest) = some (host, rest) :=
      ipv4_eq_some_iff.mpr ⟨text, rfl, written, ends.endsNumeral⟩
    simp [groups, afterColon_leading, room, read]
  | @cons endsInBytes text left g gs written row ih =>
    obtain ⟨limit, rfl⟩ : ∃ m, limit = m + 1 := ⟨limit - 1, by simp at fits; omega⟩
    have fits : gs.length ≤ limit := Nat.le_of_succ_le_succ fits
    have colon : EndsNumeral 16 (':' :: (left ++ rest)) := endsNumeral_colon _ _
    have bytes : ipv4 (text ++ ':' :: (left ++ rest)) = none :=
      ipv4_of_isGroup written colon (by simp)
    have read : group (text ++ ':' :: (left ++ rest)) = some (g, ':' :: (left ++ rest)) :=
      group_eq_some_iff.mpr ⟨text, rfl, written, colon⟩
    have rest_read : groups limit false (':' :: (left ++ rest)) = ⟨gs, endsInBytes, rest⟩ :=
      ih fits false
    simp [groups, afterColon_leading, bytes, read, rest_read]

/-- **What is read as a row is one**, or nothing, and no longer than allowed. -/
theorem isRow_of_groups (limit : Nat) (first : Bool) (text : List Char) :
    let row := groups limit first text
    row.groups.length ≤ limit ∧
      ((row.groups = [] ∧ row.endsInBytes = false ∧ row.rest = text) ∨
        ∃ front, text = leading first (front ++ row.rest) ∧
          IsRow row.endsInBytes front row.groups) := by
  induction limit generalizing first text with
  | zero => exact ⟨Nat.le_refl _, .inl ⟨rfl, rfl, rfl⟩⟩
  | succ limit ih =>
    simp only [groups]
    split
    · next host rest hbytes =>
      split at hbytes
      · cases hbytes
      · next room =>
        obtain ⟨inner, rfl, hinner⟩ := afterColon_eq_some_iff.mp hbytes
        obtain ⟨front, rfl, written, -⟩ := ipv4_eq_some_iff.mp hinner
        refine ⟨?_, .inr ⟨front, rfl, .bytes written⟩⟩
        simp only [Ipv4.groups, List.length_cons, List.length_nil]
        omega
    · split
      · next g rest hgroup =>
        obtain ⟨inner, rfl, hinner⟩ := afterColon_eq_some_iff.mp hgroup
        obtain ⟨digits, rfl, written, -⟩ := group_eq_some_iff.mp hinner
        obtain ⟨fits, ⟨none_read, ends, stays⟩ | ⟨front, hrest, row⟩⟩ := ih false rest
        · refine ⟨Nat.succ_le_succ fits, .inr ⟨digits, ?_, ?_⟩⟩
          · rw [stays]
          · rw [none_read, ends]
            exact .group written
        · refine ⟨Nat.succ_le_succ fits, .inr ⟨digits ++ ':' :: front, ?_, .cons written row⟩⟩
          refine (congrArg (fun t => leading first (digits ++ t)) hrest).trans ?_
          simp only [leading, Bool.false_eq_true, if_false, List.append_assoc, List.cons_append]
      · exact ⟨Nat.zero_le _, .inl ⟨rfl, rfl, rfl⟩⟩

/-! ## 5. Hosts of eight groups -/

/-- What may follow a host of eight groups: the bracket that closes it, or a zone before that. -/
inductive EndsHost : List Char → Prop
  | bracket {rest : List Char} : EndsHost (']' :: rest)
  | zone {rest : List Char} : EndsHost ('%' :: rest)

theorem EndsHost.endsRow {rest : List Char} (h : EndsHost rest) : EndsRow rest := by
  cases h with
  | bracket => exact .bracket
  | zone => exact .zone

/-- A part of a host is read whole. -/
theorem groups_of_isPart {endsInBytes : Bool} {text rest : List Char} {gs : List UInt16}
    (part : IsPart endsInBytes text gs) (ends : EndsRow rest) {limit : Nat}
    (fits : gs.length ≤ limit) : groups limit true (text ++ rest) = ⟨gs, endsInBytes, rest⟩ := by
  rcases part with row | ⟨rfl, rfl, rfl⟩
  · exact groups_of_isRow row ends fits true
  · exact groups_of_endsRow ends limit true

theorem isPart_of_groups (limit : Nat) (text : List Char) :
    let row := groups limit true text
    row.groups.length ≤ limit ∧
      ∃ front, text = front ++ row.rest ∧ IsPart row.endsInBytes front row.groups := by
  obtain ⟨fits, ⟨none_read, ends, stays⟩ | ⟨front, htext, row⟩⟩ := isRow_of_groups limit true text
  · exact ⟨fits, [], stays.symm, .inr ⟨ends, rfl, none_read⟩⟩
  · exact ⟨fits, front, htext, .inl row⟩

/-- A host is its eight groups. -/
theorem ofFn_eq_iff {gs : List UInt16} (full : gs.length = 8) {host : Ipv6} :
    (⟨Vector.ofFn fun i => gs.getD i 0⟩ : Ipv6) = host ↔ host.groups.toList = gs := by
  have same : (Vector.ofFn fun i : Fin 8 => gs.getD i 0).toList = gs := by
    refine List.ext_getElem (by simp [full]) fun i hi hgs => ?_
    simp [List.getD_eq_getElem?_getD, List.getElem?_eq_getElem hgs]
  obtain ⟨groups⟩ := host
  rw [Ipv6.mk.injEq, ← Vector.toList_inj, same]
  exact eq_comm

/-- **A host of the grammar is read whole.** -/
theorem ipv6_of_isIpv6 {text rest : List Char} {host : Ipv6} (written : IsIpv6 text host)
    (ends : EndsHost rest) : ipv6 (text ++ rest) = some (host, rest) := by
  cases written with
  | whole row =>
    have full : host.groups.toList.length = 8 := Vector.length_toList
    have read := groups_of_isRow row ends.endsRow (Nat.le_of_eq full) true
    simp only [leading, if_true] at read
    simp only [ipv6, read]
    rw [if_pos full, (ofFn_eq_iff full).mpr rfl]
  | @short ends' left right head tail zeros _ hleft hright length value =>
    have read_head : groups 8 true (left ++ ':' :: ':' :: right ++ rest) =
        ⟨head, false, ':' :: ':' :: (right ++ rest)⟩ := by
      rw [List.append_assoc]
      exact groups_of_isPart hleft .colons (by omega)
    have read_tail := groups_of_isPart hright ends.endsRow
      (show tail.length ≤ 7 - head.length by omega)
    have missing : 8 - head.length - tail.length = zeros + 1 := by omega
    have full : (head ++ List.replicate (zeros + 1) 0 ++ tail).length = 8 := by
      simp only [List.length_append, List.length_replicate, length]
    simp only [ipv6, read_head]
    rw [if_neg (by omega), if_neg (by simp)]
    simp only [char, if_true, Option.bind_eq_bind, Option.bind_some, read_tail, missing]
    rw [(ofFn_eq_iff full).mpr value]

/-- **What is read as a host is one of the grammar.** -/
theorem isIpv6_of_ipv6 {text rest : List Char} {host : Ipv6}
    (h : ipv6 text = some (host, rest)) : ∃ front, text = front ++ rest ∧ IsIpv6 front host := by
  obtain ⟨fits, left, htext, hleft⟩ := isPart_of_groups 8 text
  generalize hhead : groups 8 true text = head at *
  simp only [ipv6, hhead] at h
  split at h
  · next full =>
    obtain ⟨rfl, rfl⟩ := Prod.mk.inj (Option.some.inj h)
    rcases hleft with row | ⟨-, -, empty⟩
    · rw [← (ofFn_eq_iff full).mp rfl] at row
      exact ⟨left, htext, .whole row⟩
    · simp [empty] at full
  · next few =>
    split at h
    · cases h
    · next nobytes =>
      simp only [Option.bind_eq_bind, Option.bind_eq_some_iff, Prod.exists, char_eq_some_iff] at h
      obtain ⟨-, _, hcolon, -, after, rfl, h⟩ := h
      obtain ⟨fits_tail, right, hafter, hright⟩ := isPart_of_groups (7 - head.groups.length) after
      generalize groups (7 - head.groups.length) true after = tail at *
      obtain ⟨hhost, rfl⟩ := Prod.mk.inj (Option.some.inj h)
      obtain ⟨zeros, missing⟩ :
          ∃ zeros, 8 - head.groups.length - tail.groups.length = zeros + 1 :=
        ⟨7 - head.groups.length - tail.groups.length, by omega⟩
      rw [missing] at hhost
      have length : head.groups.length + (zeros + 1) + tail.groups.length = 8 := by omega
      rw [Bool.not_eq_true] at nobytes
      rw [nobytes] at hleft
      refine ⟨left ++ ':' :: ':' :: right, ?_, .short hleft hright length ?_⟩
      · rw [htext, hcolon, hafter]
        simp
      · exact (ofFn_eq_iff (by simp only [List.length_append, List.length_replicate, length])).mp
          hhost

/-! ## 6. Ports and zones -/

/-- A port after its colon. -/
theorem port_eq_some_iff {text rest : List Char} {p : UInt16} :
    port text = some (p, rest) ↔
      ∃ digits, text = ':' :: (digits ++ rest) ∧ IsPort digits p ∧ EndsNumeral 10 rest := by
  simp only [port, Option.bind_eq_bind, Option.bind_eq_some_iff, Prod.exists, char_eq_some_iff,
    @number_eq_some_iff ⟨10, none, true, 65536⟩ (by decide), Option.some.injEq, Prod.mk.injEq]
  constructor
  · rintro ⟨_, _, rfl, n, _, ⟨digits, rfl, written, ends⟩, rfl, rfl⟩
    have hn : (UInt16.ofNat n).toNat = n := Nat.mod_eq_of_lt written.below
    refine ⟨digits, rfl, ?_, ends⟩
    rw [IsPort, hn]
    exact written.numeral
  · rintro ⟨digits, rfl, written, ends⟩
    exact ⟨(), _, rfl, p.toNat, rest, ⟨digits, rfl, ⟨written, nofun, nofun, p.toNat_lt⟩, ends⟩,
      UInt16.ofNat_toNat, rfl⟩

/-- A zone after its sign. -/
theorem zone_eq_some_iff {text rest : List Char} {z : UInt32} :
    zone text = some (z, rest) ↔ ∃ digits, text = '%' :: (digits ++ rest) ∧
      Numeral 10 digits z.toNat ∧ EndsNumeral 10 rest := by
  simp only [zone, Option.bind_eq_bind, Option.bind_eq_some_iff, Prod.exists, char_eq_some_iff,
    @number_eq_some_iff ⟨10, none, true, 4294967296⟩ (by decide), Option.some.injEq,
    Prod.mk.injEq]
  constructor
  · rintro ⟨_, _, rfl, n, _, ⟨digits, rfl, written, ends⟩, rfl, rfl⟩
    have hn : (UInt32.ofNat n).toNat = n := Nat.mod_eq_of_lt written.below
    exact ⟨digits, rfl, hn.symm ▸ written.numeral, ends⟩
  · rintro ⟨digits, rfl, written, ends⟩
    exact ⟨(), _, rfl, z.toNat, rest, ⟨digits, rfl, ⟨written, nofun, nofun, z.toNat_lt⟩, ends⟩,
      UInt32.ofNat_toNat, rfl⟩

theorem endsNumeral_bracket (base : Nat) (rest : List Char) : EndsNumeral base (']' :: rest) := by
  rw [endsNumeral_cons]
  rfl

/-- The zone before a bracket, if there is one. -/
theorem zone_getD_iff {text rest : List Char} {z : UInt32} :
    (zone text).getD (0, text) = (z, ']' :: rest) ↔
      ∃ inside, text = inside ++ ']' :: rest ∧ IsZone inside z := by
  constructor
  · intro h
    cases hzone : zone text with
    | none =>
      simp only [hzone, Option.getD_none, Prod.mk.injEq] at h
      obtain ⟨rfl, rfl⟩ := h
      exact ⟨[], rfl, .none⟩
    | some read =>
      simp only [hzone, Option.getD_some] at h
      subst h
      obtain ⟨digits, rfl, written, -⟩ := zone_eq_some_iff.mp hzone
      exact ⟨'%' :: digits, rfl, .some written⟩
  · rintro ⟨inside, rfl, written⟩
    cases written with
    | none =>
      have none_read : zone (']' :: rest) = none := by simp [zone, char]
      rw [List.nil_append, none_read, Option.getD_none]
    | @some digits _ written =>
      have read : zone ('%' :: (digits ++ ']' :: rest)) = some (z, ']' :: rest) :=
        zone_eq_some_iff.mpr ⟨digits, rfl, written, endsNumeral_bracket _ _⟩
      rw [List.cons_append, read, Option.getD_some]

/-! ## 7. Whole addresses -/

theorem socketV4_eq_some_iff {text rest : List Char} {address : SocketAddress} :
    socketV4 text = some (address, rest) ↔ ∃ front digits host p,
      text = front ++ ':' :: (digits ++ rest) ∧ IsIpv4 front host ∧ IsPort digits p ∧
        EndsNumeral 10 rest ∧ address = .v4 host p := by
  simp only [socketV4, Option.bind_eq_bind, Option.bind_eq_some_iff, Prod.exists,
    ipv4_eq_some_iff, port_eq_some_iff, Option.some.injEq, Prod.mk.injEq]
  constructor
  · rintro ⟨host, _, ⟨front, rfl, written, -⟩, p, _, ⟨digits, rfl, hport, ends⟩, rfl, rfl⟩
    exact ⟨front, digits, host, p, rfl, written, hport, ends, rfl⟩
  · rintro ⟨front, digits, host, p, rfl, written, hport, ends, rfl⟩
    exact ⟨host, _, ⟨front, rfl, written, endsNumeral_colon _ _⟩, p, rest,
      ⟨digits, rfl, hport, ends⟩, rfl, rfl⟩

/-- What follows a host is a zone or its bracket. -/
theorem endsHost_of_isZone {inside rest : List Char} {z : UInt32} (h : IsZone inside z) :
    EndsHost (inside ++ ']' :: rest) := by
  cases h with
  | none => exact .bracket
  | some => exact .zone

theorem socketV6_eq_some_iff {text rest : List Char} {address : SocketAddress} :
    socketV6 text = some (address, rest) ↔ ∃ front inside digits host z p,
      text = '[' :: (front ++ (inside ++ ']' :: ':' :: (digits ++ rest))) ∧ IsIpv6 front host ∧
        IsZone inside z ∧ IsPort digits p ∧ EndsNumeral 10 rest ∧ address = .v6 host z p := by
  simp only [socketV6, Option.bind_eq_bind, Option.bind_eq_some_iff, Prod.exists,
    char_eq_some_iff, port_eq_some_iff, Option.some.injEq, Prod.mk.injEq]
  constructor
  · rintro ⟨_, _, rfl, host, left, hhost, _, _, hclose, p, _, ⟨digits, rfl, hport, ends⟩, rfl, rfl⟩
    obtain ⟨front, rfl, written⟩ := isIpv6_of_ipv6 hhost
    obtain ⟨inside, rfl, hzone⟩ := zone_getD_iff.mp (Prod.ext rfl hclose)
    exact ⟨front, inside, digits, host, _, p, rfl, written, hzone, hport, ends, rfl⟩
  · rintro ⟨front, inside, digits, host, z, p, rfl, written, hzone, hport, ends, rfl⟩
    let after := ':' :: (digits ++ rest)
    have hread : (zone (inside ++ ']' :: after)).getD (0, inside ++ ']' :: after) =
        (z, ']' :: after) := zone_getD_iff.mpr ⟨inside, rfl, hzone⟩
    refine ⟨(), _, rfl, host, inside ++ ']' :: ':' :: (digits ++ rest),
      ipv6_of_isIpv6 written (endsHost_of_isZone hzone), (), _, ?_, p, rest,
      ⟨digits, rfl, hport, ends⟩, ?_⟩
    · rw [hread]
    · rw [hread]
      exact ⟨rfl, rfl⟩

end Reader

/-- **The reader takes exactly the grammar**, each text for the address that it stands for. -/
theorem SocketAddress.ofText?_eq_some_iff {text : String} {address : SocketAddress} :
    ofText? text = some address ↔ IsSocketAddress text.toList address := by
  have whole : ofText? text = some address ↔
      (Reader.socketV4 text.toList <|> Reader.socketV6 text.toList) = some (address, []) := by
    unfold ofText?
    split
    · next read hread => simp [hread]
    · next other => exact ⟨nofun, fun h => absurd h (other address)⟩
  rw [whole]
  constructor
  · intro h
    cases hv4 : Reader.socketV4 text.toList with
    | some read =>
      rw [hv4] at h
      cases Option.some.inj h
      obtain ⟨front, digits, host, p, htext, written, hport, -, rfl⟩ :=
        Reader.socketV4_eq_some_iff.mp hv4
      rw [htext, List.append_nil]
      exact .v4 written hport
    | none =>
      rw [hv4] at h
      obtain ⟨front, inside, digits, host, z, p, htext, written, hzone, hport, -, rfl⟩ :=
        Reader.socketV6_eq_some_iff.mp h
      rw [htext, List.append_nil]
      exact .v6 written hzone hport
  · generalize text.toList = chars
    rintro (@⟨front, digits, host, p, written, hport⟩ |
      @⟨front, inside, digits, host, z, p, written, hzone, hport⟩)
    · have hv4 : Reader.socketV4 (front ++ ':' :: digits) = some (.v4 host p, []) :=
        Reader.socketV4_eq_some_iff.mpr ⟨front, digits, host, p, by simp, written, hport,
          Reader.endsNumeral_nil 10, rfl⟩
      rw [hv4]
      rfl
    · have hv6 : Reader.socketV6 ('[' :: (front ++ (inside ++ ']' :: ':' :: digits))) =
          some (.v6 host z p, []) :=
        Reader.socketV6_eq_some_iff.mpr ⟨front, inside, digits, host, z, p, by simp, written,
          hzone, hport, Reader.endsNumeral_nil 10, rfl⟩
      rw [hv6]
      rfl

/-- The local host and a port of its own, and the same host in eight groups. -/
example : SocketAddress.ofText? "127.0.0.1:080" = some (.v4 ⟨127, 0, 0, 1⟩ 80) ∧
    SocketAddress.ofText? "[::ffff:127.0.0.1%3]:0" =
      some (.v6 ⟨Vector.mk (Array.mk [0, 0, 0, 0, 0, 0xffff, 0x7f00, 1]) rfl⟩ 3 0) := by
  decide +kernel

end TokenRotation.Settings
