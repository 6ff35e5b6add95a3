import Mathlib.Logic.Relation
import TokenRotation.Proofs.Acceptance
import TokenRotation.Proofs.Endings
import TokenRotation.Proofs.Succession

/-!
# Genealogy

Where tokens come from is read off the deeds: a token is born by the token that its actor had
accepted last, or it begins a login when its actor had accepted none. The rows know nothing of this
but their family, and this file shows that the family is enough: where logins are given fresh
families, two tokens descend from one login exactly when their rows are of one family.

* `Bears`, `Founds`, `SameLogin` -- descent, read off the deeds;
* `Lineage` -- the invariant between the deeds so far and the hashes and families of the table;
* `Lineage.sameLogin_iff` -- one login is one family;
* `Session.lineage` -- the invariant in every session that begins with an empty table.
-/

namespace TokenRotation

/-! ## 1. Descent -/

/-- The child was added by an actor that had accepted the parent last. -/
def Bears (deeds : List Deed) (parent child : String) : Prop :=
  ∃ front d back new row, deeds = front ++ d :: back ∧ d.inserted? = some new ∧ new.hash = child ∧
    (acceptedBy d.actor front).getLast? = some row ∧ row.hash = parent

/-- The root was added by an actor that had accepted nothing. -/
def Founds (deeds : List Deed) (root : String) : Prop :=
  ∃ front d back new, deeds = front ++ d :: back ∧ d.inserted? = some new ∧ new.hash = root ∧
    acceptedBy d.actor front = []

/-- A token descends from another one over any number of births. -/
def Descends (deeds : List Deed) : String → String → Prop := Relation.ReflTransGen (Bears deeds)

/-- **Two tokens descend from one login.** -/
def SameLogin (deeds : List Deed) (a b : String) : Prop :=
  ∃ root, Founds deeds root ∧ Descends deeds root a ∧ Descends deeds root b

theorem Bears.append {deeds : List Deed} {a b : String} (h : Bears deeds a b) (more : List Deed) :
    Bears (deeds ++ more) a b := by
  obtain ⟨front, d, back, new, row, rfl, hrest⟩ := h
  exact ⟨front, d, back ++ more, new, row, by simp, hrest⟩

theorem Founds.append {deeds : List Deed} {root : String} (h : Founds deeds root)
    (more : List Deed) : Founds (deeds ++ more) root := by
  obtain ⟨front, d, back, new, rfl, hrest⟩ := h
  exact ⟨front, d, back ++ more, new, by simp, hrest⟩

theorem Descends.append {deeds : List Deed} {a b : String} (h : Descends deeds a b)
    (more : List Deed) : Descends (deeds ++ more) a b :=
  Relation.ReflTransGen.mono (fun _ _ h => h.append more) _ _ h

theorem SameLogin.append {deeds : List Deed} {a b : String} (h : SameLogin deeds a b)
    (more : List Deed) : SameLogin (deeds ++ more) a b := by
  obtain ⟨root, founds, ha, hb⟩ := h
  exact ⟨root, founds.append more, ha.append more, hb.append more⟩

/-- The last of some deeds, or one before it. -/
theorem split_snoc {past front back : List Deed} {d e : Deed}
    (h : past ++ [d] = front ++ e :: back) :
    (front = past ∧ e = d) ∨ ∃ rest, past = front ++ e :: rest := by
  rcases List.eq_nil_or_concat back with rfl | ⟨rest, last, rfl⟩
  · obtain ⟨hfront, hlast⟩ := List.append_inj' h rfl
    exact .inl ⟨hfront.symm, (List.singleton_inj.mp hlast).symm⟩
  · rw [List.concat_eq_append, ← List.cons_append, ← List.append_assoc] at h
    exact .inr ⟨rest, (List.append_inj' h rfl).1⟩

theorem Bears.of_snoc {past : List Deed} {d : Deed} {a b : String} (h : Bears (past ++ [d]) a b) :
    Bears past a b ∨ ∃ new row, d.inserted? = some new ∧ new.hash = b ∧
      (acceptedBy d.actor past).getLast? = some row ∧ row.hash = a := by
  obtain ⟨front, e, back, new, row, heq, hrest⟩ := h
  rcases split_snoc heq with ⟨rfl, rfl⟩ | ⟨rest, rfl⟩
  · exact .inr ⟨new, row, hrest⟩
  · exact .inl ⟨front, e, rest, new, row, rfl, hrest⟩

theorem Founds.of_snoc {past : List Deed} {d : Deed} {root : String}
    (h : Founds (past ++ [d]) root) :
    Founds past root ∨ ∃ new, d.inserted? = some new ∧ new.hash = root ∧
      acceptedBy d.actor past = [] := by
  obtain ⟨front, e, back, new, heq, hrest⟩ := h
  rcases split_snoc heq with ⟨rfl, rfl⟩ | ⟨rest, rfl⟩
  · exact .inr ⟨new, hrest⟩
  · exact .inl ⟨front, e, rest, new, rfl, hrest⟩

/-! ## 2. Legitimate deeds -/

/-- An insertion is a birth into the family of the parent, or founds a family of its own. -/
def Deed.IsLegitimate (past : List Deed) (d : Deed) : Prop :=
  (Request.store d.call).Succeeds (acceptedBy d.actor past) ∨
    acceptedBy d.actor past = [] ∧
      ∀ token, d.call = .insert token → ∀ r ∈ d.before, r.family ≠ token.family

/-- **Every deed is legitimate** when it is done. -/
def Legitimate : (past : List Deed) → List Deed → Prop
  | _, [] => True
  | past, d :: rest => d.IsLegitimate past ∧ Legitimate (past ++ [d]) rest

theorem Inherited.legitimate {past deeds : List Deed} (h : Inherited past deeds) :
    Legitimate past deeds := by
  induction deeds generalizing past with
  | nil => exact trivial
  | cons d rest ih => exact ⟨.inl h.1, ih h.2⟩

theorem Legitimate.append {past deeds more : List Deed} (h : Legitimate past deeds)
    (h' : Legitimate (past ++ deeds) more) : Legitimate past (deeds ++ more) := by
  induction deeds generalizing past with
  | nil => simpa using h'
  | cons d rest ih => exact ⟨h.1, ih h.2 (by simpa using h')⟩

theorem Legitimate.split_cons {past front back : List Deed} {d : Deed}
    (h : Legitimate past (front ++ d :: back)) : d.IsLegitimate (past ++ front) := by
  induction front generalizing past with
  | nil =>
    rw [List.append_nil]
    exact h.1
  | cons e front ih =>
    have hrest := ih h.2
    simpa using hrest

/-! ## 3. The invariant -/

/-- The hashes of the rows with their families. -/
def Table.births (rows : Table) : List (String × Uuid) := rows.map fun r => (r.hash, r.family)

theorem Table.mem_births {rows : Table} {hash : String} {family : Uuid} :
    (hash, family) ∈ rows.births ↔ ∃ r ∈ rows, r.hash = hash ∧ r.family = family := by
  simp [births]

theorem Table.births_of_forall₂ {rows kept : Table} (h : List.Forall₂ Row.Evolves rows kept) :
    kept.births = rows.births := by
  unfold births
  induction h with
  | nil => rfl
  | cons h _ ih => simp only [List.map_cons, h.hash, h.family, ih]

/-- **What the deeds so far have to do with the table**, by its hashes and families. -/
structure Lineage (past : List Deed) (births : List (String × Uuid)) : Prop where
  distinct : (births.map Prod.fst).Nodup
  /-- What was accepted is in the table. -/
  accepted : ∀ d ∈ past, ∀ row kind, d.accepted? = some (row, kind) →
    (row.hash, row.family) ∈ births
  founded : ∀ root, Founds past root → ∃ f, (root, f) ∈ births
  /-- Parent and child are of one family. -/
  born : ∀ a b, Bears past a b → ∃ f, (a, f) ∈ births ∧ (b, f) ∈ births
  /-- Every row descends from a login of its family. -/
  descent : ∀ a f, (a, f) ∈ births → ∃ root, Founds past root ∧ Descends past root a ∧
    (root, f) ∈ births
  /-- No two logins are of one family. -/
  one : ∀ a b f, Founds past a → Founds past b → (a, f) ∈ births → (b, f) ∈ births → a = b

namespace Lineage

variable {past : List Deed} {births : List (String × Uuid)} {a b : String} {f f' : Uuid}

theorem nil : Lineage [] [] where
  distinct := List.nodup_nil
  accepted _ hd := absurd hd List.not_mem_nil
  founded _ h := by
    obtain ⟨front, d, back, new, heq, -⟩ := h
    simp at heq
  born _ _ h := by
    obtain ⟨front, d, back, new, row, heq, -⟩ := h
    simp at heq
  descent _ _ h := absurd h List.not_mem_nil
  one _ _ _ _ _ h := absurd h List.not_mem_nil

/-- A hash is of one family. -/
theorem family_unique (h : Lineage past births) (ha : (a, f) ∈ births) (ha' : (a, f') ∈ births) :
    f = f' := by
  have heq := List.inj_on_of_nodup_map h.distinct ha ha' rfl
  exact congrArg Prod.snd heq

/-- Descent stays in the family. -/
theorem family_of_descends (h : Lineage past births) (hdesc : Descends past a b)
    (ha : (a, f) ∈ births) : (b, f) ∈ births := by
  induction hdesc with
  | refl => exact ha
  | tail _ hbears ih =>
    obtain ⟨g, hparent, hchild⟩ := h.born _ _ hbears
    rw [h.family_unique ih hparent]
    exact hchild

/-- **One login is one family.** -/
theorem sameLogin_iff (h : Lineage past births) (ha : (a, f) ∈ births) (hb : (b, f') ∈ births) :
    SameLogin past a b ↔ f = f' := by
  constructor
  · rintro ⟨root, hroot, hda, hdb⟩
    obtain ⟨g, hg⟩ := h.founded root hroot
    have hfa := h.family_unique ha (h.family_of_descends hda hg)
    have hfb := h.family_unique hb (h.family_of_descends hdb hg)
    exact hfa.trans hfb.symm
  · rintro rfl
    obtain ⟨root, hroot, hda, hrf⟩ := h.descent a f ha
    obtain ⟨root', hroot', hdb, hrf'⟩ := h.descent b f hb
    have heq := h.one root root' f hroot hroot' hrf hrf'
    exact ⟨root, hroot, hda, heq ▸ hdb⟩

/-- Whatever shares a login is in the table, in one family. -/
theorem family_of_sameLogin (h : Lineage past births) (hsame : SameLogin past a b) :
    ∃ f, (a, f) ∈ births ∧ (b, f) ∈ births := by
  obtain ⟨root, hroot, hda, hdb⟩ := hsame
  obtain ⟨g, hg⟩ := h.founded root hroot
  exact ⟨g, h.family_of_descends hda hg, h.family_of_descends hdb hg⟩

theorem mem_births_of_accepted {k : StoreKind} {d : Deed} (lawful : d.Lawful k) {row : Row}
    {kind : ConsumeKind} (hacc : d.accepted? = some (row, kind)) :
    (row.hash, row.family) ∈ d.before.births := by
  obtain ⟨-, r, found, hrow, -⟩ := lawful.of_accepted hacc
  exact Table.mem_births.mpr
    ⟨r, Table.mem_of_byHash? found, hrow.hash.symm, hrow.family.symm⟩

section Snoc

variable {d : Deed} {later : List (String × Uuid)}

theorem accepted_snoc (h : Lineage past births) (kept : births ⊆ later)
    (hacc : ∀ row kind, d.accepted? = some (row, kind) → (row.hash, row.family) ∈ later) :
    ∀ e ∈ past ++ [d], ∀ row kind, e.accepted? = some (row, kind) →
      (row.hash, row.family) ∈ later := by
  intro e he row kind haccepted
  rcases List.mem_append.mp he with hpast | hlast
  · exact kept (h.accepted e hpast row kind haccepted)
  · rw [List.mem_singleton.mp hlast] at haccepted
    exact hacc row kind haccepted

theorem descent_snoc (h : Lineage past births) (kept : births ⊆ later) (d : Deed)
    (ha : (a, f) ∈ births) : ∃ root, Founds (past ++ [d]) root ∧
      Descends (past ++ [d]) root a ∧ (root, f) ∈ later := by
  obtain ⟨root, hroot, hdesc, hrf⟩ := h.descent a f ha
  exact ⟨root, hroot.append [d], hdesc.append [d], kept hrf⟩

/-- A deed that adds no row. -/
theorem keep (h : Lineage past births) (hnone : d.inserted? = none)
    (hacc : ∀ row kind, d.accepted? = some (row, kind) → (row.hash, row.family) ∈ births) :
    Lineage (past ++ [d]) births := by
  have founded_before {root : String} (hroot : Founds (past ++ [d]) root) : Founds past root := by
    rcases hroot.of_snoc with hpast | ⟨new, hnew, -⟩
    · exact hpast
    · rw [hnone] at hnew
      cases hnew
  have born_before {a b : String} (hbears : Bears (past ++ [d]) a b) : Bears past a b := by
    rcases hbears.of_snoc with hpast | ⟨new, row, hnew, -⟩
    · exact hpast
    · rw [hnone] at hnew
      cases hnew
  exact
    { distinct := h.distinct
      accepted := h.accepted_snoc (List.Subset.refl births) hacc
      founded := fun root hroot => h.founded root (founded_before hroot)
      born := fun a b hbears => h.born a b (born_before hbears)
      descent := fun a f ha => h.descent_snoc (List.Subset.refl births) d ha
      one := fun a b f hfa hfb => h.one a b f (founded_before hfa) (founded_before hfb) }

variable {new : Row}

theorem distinct_snoc (h : Lineage past births) (fresh : new.hash ∉ births.map Prod.fst) :
    ((births ++ [(new.hash, new.family)]).map Prod.fst).Nodup := by
  rw [List.map_append]
  refine List.nodup_append.mpr ⟨h.distinct, List.nodup_singleton _, fun a ha b hb heq => ?_⟩
  rw [heq, List.mem_singleton.mp hb] at ha
  exact fresh ha

/-- A deed that adds a child of the row its actor had accepted last. -/
theorem bear {row : Row} (h : Lineage past births) (hnew : d.inserted? = some new)
    (hacc : d.accepted? = none) (hlast : (acceptedBy d.actor past).getLast? = some row)
    (hfamily : new.family = row.family) (fresh : new.hash ∉ births.map Prod.fst) :
    Lineage (past ++ [d]) (births ++ [(new.hash, new.family)]) := by
  have kept := List.subset_append_left births [(new.hash, new.family)]
  have hparent : (row.hash, new.family) ∈ births := by
    obtain ⟨e, he, -, kind, haccepted⟩ := mem_acceptedBy.mp (List.mem_of_getLast? hlast)
    rw [hfamily]
    exact h.accepted e he row kind haccepted
  have hborn : Bears (past ++ [d]) row.hash new.hash :=
    ⟨past, d, [], new, row, rfl, hnew, rfl, hlast, rfl⟩
  have before {root : String} (hroot : Founds (past ++ [d]) root) : Founds past root := by
    rcases hroot.of_snoc with hpast | ⟨_, -, -, hempty⟩
    · exact hpast
    · simp [hempty] at hlast
  have old {a : String} {f : Uuid} (hroot : Founds past a)
      (ha : (a, f) ∈ births ++ [(new.hash, new.family)]) : (a, f) ∈ births := by
    rcases List.mem_append.mp ha with hold | hlast
    · exact hold
    · obtain ⟨g, hg⟩ := h.founded a hroot
      rw [(Prod.mk.inj (List.mem_singleton.mp hlast)).1] at hg
      exact absurd (List.mem_map_of_mem hg) fresh
  refine ⟨h.distinct_snoc fresh, h.accepted_snoc kept (by simp [hacc]), fun root hroot => ?_,
    fun a b hbears => ?_, fun a f ha => ?_, fun a b f hfa hfb ha hb => ?_⟩
  · obtain ⟨g, hg⟩ := h.founded root (before hroot)
    exact ⟨g, kept hg⟩
  · rcases hbears.of_snoc with hpast | ⟨new', row', hnew', rfl, hlast', rfl⟩
    · obtain ⟨g, hga, hgb⟩ := h.born a b hpast
      exact ⟨g, kept hga, kept hgb⟩
    · rw [hnew] at hnew'
      rw [hlast] at hlast'
      cases hnew'
      cases hlast'
      exact ⟨new.family, kept hparent, List.mem_append_right _ List.mem_cons_self⟩
  · rcases List.mem_append.mp ha with hold | hlast
    · exact h.descent_snoc kept d hold
    · cases List.mem_singleton.mp hlast
      obtain ⟨root, hroot, hdesc, hrf⟩ := h.descent_snoc kept d hparent
      exact ⟨root, hroot, hdesc.tail hborn, hrf⟩
  · exact h.one a b f (before hfa) (before hfb) (old (before hfa) ha) (old (before hfb) hb)

/-- A deed that adds the first row of a family, by an actor that had accepted nothing. -/
theorem found (h : Lineage past births) (hnew : d.inserted? = some new)
    (hacc : d.accepted? = none) (hnobody : acceptedBy d.actor past = [])
    (hfamily : ∀ a, (a, new.family) ∉ births) (fresh : new.hash ∉ births.map Prod.fst) :
    Lineage (past ++ [d]) (births ++ [(new.hash, new.family)]) := by
  have kept := List.subset_append_left births [(new.hash, new.family)]
  have hroot : Founds (past ++ [d]) new.hash := ⟨past, d, [], new, rfl, hnew, rfl, hnobody⟩
  -- a root of this family is the new row
  have only {a : String} {f : Uuid} (hfa : Founds (past ++ [d]) a)
      (ha : (a, f) ∈ births ++ [(new.hash, new.family)]) :
      (Founds past a ∧ (a, f) ∈ births) ∨ (a = new.hash ∧ f = new.family) := by
    rcases List.mem_append.mp ha with hold | hlast
    · rcases hfa.of_snoc with hpast | ⟨new', hnew', rfl, -⟩
      · exact .inl ⟨hpast, hold⟩
      · rw [hnew] at hnew'
        cases hnew'
        exact absurd (List.mem_map_of_mem hold) fresh
    · exact .inr (Prod.mk.inj (List.mem_singleton.mp hlast))
  refine ⟨h.distinct_snoc fresh, h.accepted_snoc kept (by simp [hacc]), fun root hfounds => ?_,
    fun a b hbears => ?_, fun a f ha => ?_, fun a b f hfa hfb ha hb => ?_⟩
  · rcases hfounds.of_snoc with hpast | ⟨new', hnew', rfl, -⟩
    · obtain ⟨g, hg⟩ := h.founded root hpast
      exact ⟨g, kept hg⟩
    · rw [hnew] at hnew'
      cases hnew'
      exact ⟨new.family, List.mem_append_right _ List.mem_cons_self⟩
  · rcases hbears.of_snoc with hpast | ⟨_, _, -, -, hlast, -⟩
    · obtain ⟨g, hga, hgb⟩ := h.born a b hpast
      exact ⟨g, kept hga, kept hgb⟩
    · simp [hnobody] at hlast
  · rcases List.mem_append.mp ha with hold | hlast
    · exact h.descent_snoc kept d hold
    · cases List.mem_singleton.mp hlast
      exact ⟨new.hash, hroot, .refl, ha⟩
  · rcases only hfa ha with ⟨hpa, hma⟩ | ⟨rfl, rfl⟩
    · rcases only hfb hb with ⟨hpb, hmb⟩ | ⟨rfl, rfl⟩
      · exact h.one a b f hpa hpb hma hmb
      · exact absurd hma (hfamily a)
    · rcases only hfb hb with ⟨-, hmb⟩ | ⟨rfl, -⟩
      · exact absurd hmb (hfamily b)
      · rfl

end Snoc

/-- **A legitimate deed keeps the invariant.** -/
theorem deed {k : StoreKind} {d : Deed} (h : Lineage past d.before.births) (lawful : d.Lawful k)
    (legitimate : d.IsLegitimate past) : Lineage (past ++ [d]) d.after.births := by
  rcases lawful.adds_or_evolves with ⟨token, hcall, hnew, fresh, hafter⟩ | ⟨hnone, hrows⟩
  · have hacc : d.accepted? = none := by
      obtain ⟨actor, before, call, outcome, after⟩ := d
      cases hcall
      rfl
    have hbirths : d.after.births = d.before.births ++
        [((k.keepRow token.row).hash, (k.keepRow token.row).family)] := by
      simp [hafter, Table.births]
    have hfresh : (k.keepRow token.row).hash ∉ d.before.births.map Prod.fst := by
      intro hmem
      obtain ⟨⟨hash, family⟩, hpair, heq⟩ := List.mem_map.mp hmem
      obtain ⟨r, hr, rfl, -⟩ := Table.mem_births.mp hpair
      rw [StoreKind.keepRow_hash] at heq
      exact Table.hasHash_eq_false_iff.mp fresh r hr heq
    rw [hbirths]
    rcases legitimate with hsucceeds | ⟨hnobody, hfamily⟩
    · rw [hcall] at hsucceeds
      obtain ⟨row, hlast, -, hrf⟩ := hsucceeds
      exact h.bear hnew hacc hlast ((k.keepRow_family _).trans hrf) hfresh
    · refine h.found hnew hacc hnobody (fun a ha => ?_) hfresh
      obtain ⟨r, hr, -, hrf⟩ := Table.mem_births.mp ha
      exact hfamily token hcall r hr (hrf.trans (k.keepRow_family _))
  · rw [Table.births_of_forall₂ hrows]
    exact h.keep hnone fun row kind hacc => mem_births_of_accepted lawful hacc

end Lineage

/-- **Legitimate deeds keep the invariant.** -/
theorem History.lineage {k : StoreKind} {past deeds : List Deed} {rows after : Table}
    (h : History k rows deeds after) (legitimate : Legitimate past deeds)
    (start : Lineage past rows.births) : Lineage (past ++ deeds) after.births := by
  induction h generalizing past with
  | nil => simpa using start
  | cons lawful _ ih =>
    have hrest := ih legitimate.2 (start.deed lawful legitimate.1)
    simpa using hrest

/-! ## 4. Sessions -/

/-- All that an issue does to the table is to insert into its family, until it goes through. -/
theorem Service.issueWithin_inserts {policy : Policy} {subject : String} {family : Uuid}
    {now : Instant} {left number : Nat} {k : StoreKind} {rows : Table} :
    (issueWithin policy subject family now left number).Ends k rows fun deeds _ _ =>
      ∀ d ∈ deeds, d.before = rows ∧ ∃ token, d.call = .insert token ∧ token.family = family := by
  have one {d : Deed} {token : NewToken} (hd : d ∈ [d]) (hbefore : d.before = rows)
      (hcall : d.call = .insert token) (hfamily : token.family = family) :
      ∀ e ∈ [d], e.before = rows ∧ ∃ token, e.call = .insert token ∧ token.family = family := by
    intro e he
    rw [List.mem_singleton.mp he]
    exact ⟨hbefore, token, hcall, hfamily⟩
  induction left generalizing number with
  | zero => exact Program.ends_finish fun d hd => absurd hd List.not_mem_nil
  | succ left ih =>
    refine Program.ends_secret fun secret => Program.ends_uuid fun id => ?_
    cases policy.expiresAt? now with
    | none => exact Program.ends_finish fun d hd => absurd hd List.not_mem_nil
    | some expiresAt =>
      refine Program.ends_call (fun actor answer after h => ?_) (fun actor e _ => ?_)
        fun actor cause => one List.mem_cons_self rfl rfl rfl
      · exact Program.ends_log (Program.ends_finish (one List.mem_cons_self rfl rfl rfl))
      · cases e with
        | hashCollision =>
          refine Program.ends_log (ih.imp fun deeds _ _ h d hd => ?_)
          rcases List.mem_cons.mp hd with rfl | hd
          · exact ⟨rfl, _, rfl, rfl⟩
          · exact h d hd
        | database | invalidInput | notFound | refused =>
          exact Program.ends_finish (one List.mem_cons_self rfl rfl rfl)

/-- Insertions into one fresh family are legitimate for whoever had accepted nothing. -/
theorem Legitimate.of_inserts {past deeds : List Deed} {actor : Nat} {family : Uuid}
    (hnobody : acceptedBy actor past = []) (hactor : ∀ d ∈ deeds, d.actor = actor)
    (h : ∀ d ∈ deeds, (∃ token, d.call = .insert token ∧ token.family = family) ∧
      ∀ r ∈ d.before, r.family ≠ family) : Legitimate past deeds := by
  induction deeds generalizing past with
  | nil => exact trivial
  | cons d rest ih =>
    have hd := hactor d List.mem_cons_self
    obtain ⟨⟨token, hcall, hfamily⟩, hfresh⟩ := h d List.mem_cons_self
    refine ⟨.inr ⟨hd.symm ▸ hnobody, fun token' hcall' r hr => ?_⟩, ih ?_ ?_ ?_⟩
    · rw [hcall] at hcall'
      cases hcall'
      exact hfamily.symm ▸ hfresh r hr
    · have hnone : d.accepted? = none := by
        obtain ⟨_, before, call, outcome, after⟩ := d
        cases hcall
        rfl
      rw [acceptedBy_append, hnobody]
      simp [acceptedBy, hnone]
    · exact fun e he => hactor e (List.mem_cons_of_mem d he)
    · exact fun e he => h e (List.mem_cons_of_mem d he)

namespace Session

open Program

/-- The step starts families only by a login, and lets them grow only by rotation. -/
def Step.isOrdinary (step : Step) : Bool :=
  match step.command with
  | .work (.issue _ none) => true
  | .work work => work.succeedsOnly
  | .isEmpty | .failInserts _ => true

/-- Every login draws a family that no row has. -/
def FreshLogins : Session → List Step → Prop
  | _, [] => True
  | s, step :: rest =>
    (∀ subject, step.command = .work (.issue subject none) →
      ∀ r ∈ s.store.rows, r.family ≠ s.draws.uuid.1) ∧
    (s.take step).2.FreshLogins rest

theorem FreshLogins.append {s : Session} {steps more : List Step} (h : s.FreshLogins steps)
    (h' : (s.after steps).FreshLogins more) : s.FreshLogins (steps ++ more) := by
  induction steps generalizing s with
  | nil => exact h'
  | cons step rest ih => exact ⟨h.1, ih h.2 h'⟩

theorem actor_of_mem_stepDeeds {s : Session} {actor : Nat} {step : Step} {d : Deed}
    (h : d ∈ s.stepDeeds actor step) : d.actor = actor := by
  unfold stepDeeds at h
  split at h
  · exact actor_of_mem_deeds h
  · cases h

/-- The deeds of steps are under the numbers of the steps. -/
theorem actor_of_mem_deeds {s : Session} {number : Nat} {steps : List Step} {d : Deed}
    (h : d ∈ s.deeds number steps) : number ≤ d.actor ∧ d.actor < number + steps.length := by
  induction steps generalizing s number with
  | nil => cases h
  | cons step rest ih =>
    rw [List.length_cons]
    rcases List.mem_append.mp h with hfirst | hrest
    · rw [actor_of_mem_stepDeeds hfirst]
      omega
    · have hactor := ih hrest
      omega

/-- A login inserts into the family that it draws. -/
theorem inserts_of_login (s : Session) (actor : Nat) (step : Step) {subject : String}
    (asked : step.command = .work (.issue subject none)) :
    ∀ d ∈ s.stepDeeds actor step, d.before = s.store.rows ∧
      ∃ token, d.call = .insert token ∧ token.family = s.draws.uuid.1 := by
  have hrows : (s.world step).store.rows = s.store.rows := AnyStore.rows_withFaults _ _
  intro d hd
  simp only [stepDeeds, asked, Work.program] at hd
  rw [deeds_bind] at hd
  cases shown : step.clock.now with
  | error cause =>
    simp only [Program.now, shown] at hd
    cases hd
  | ok now =>
    simp only [Program.now, shown] at hd
    change d ∈ [] ++ (Service.issue s.settings.policy subject none now >>= fun token =>
      pure (Value.issued token)).deeds actor (s.world step) at hd
    rw [List.nil_append, deeds_bind, Service.issue] at hd
    -- the entry in the log is no deed
    change d ∈ (if Text.isBlank subject then _ else _ : Program _).deeds actor
      { s.world step with log := [.entered (.issue none now)] } ++ _ at hd
    split at hd
    · cases hd
    · rcases List.mem_append.mp hd with hfirst | hlast
      · exact Service.issueWithin_inserts actor
          { s.world step with
            draws := (s.world step).draws.uuid.2, log := [.entered (.issue none now)] }
          rfl hrows d hfirst
      · split at hlast
        · cases hlast
        · cases hlast

/-- **Ordinary steps are legitimate** where logins draw fresh families. -/
theorem legitimate (s : Session) {past : List Deed} {number : Nat} {steps : List Step}
    (ordinary : ∀ step ∈ steps, step.isOrdinary) (fresh : s.FreshLogins steps)
    (before : ∀ d ∈ past, d.actor < number) : Legitimate past (s.deeds number steps) := by
  induction steps generalizing s past number with
  | nil => exact trivial
  | cons step rest ih =>
    have hnobody : acceptedBy number past = [] :=
      acceptedBy_of_others fun d hd => Nat.ne_of_lt (before d hd)
    have hstep : Legitimate past (s.stepDeeds number step) := by
      have hordinary := ordinary step List.mem_cons_self
      have hfresh := fresh.1
      cases hcommand : step.command with
      | isEmpty | failInserts => simp [stepDeeds, hcommand, Legitimate]
      | work work =>
        rw [hcommand] at hfresh
        by_cases hlogin : ∃ subject, work = .issue subject none
        · obtain ⟨subject, rfl⟩ := hlogin
          have hinserts : ∀ d ∈ s.stepDeeds number step,
              (∃ token, d.call = .insert token ∧ token.family = s.draws.uuid.1) ∧
                ∀ r ∈ d.before, r.family ≠ s.draws.uuid.1 := by
            intro d hd
            obtain ⟨hbefore, htoken⟩ := s.inserts_of_login number step hcommand d hd
            exact ⟨htoken, hbefore.symm ▸ hfresh subject rfl⟩
          exact .of_inserts hnobody (fun d hd => actor_of_mem_stepDeeds hd) hinserts
        · have hsucceeds : work.succeedsOnly := by
            simp only [Step.isOrdinary, hcommand] at hordinary
            split at hordinary
            · next subject heq =>
              cases heq
              exact absurd ⟨subject, rfl⟩ hlogin
            · next heq => cases heq; exact hordinary
            · next heq => cases heq
            · next heq => cases heq
          simp only [stepDeeds, hcommand]
          exact (Program.inherited (Work.heir hsucceeds _ _ _) _).legitimate
    refine hstep.append (ih _ (fun e he => ordinary e (List.mem_cons_of_mem step he)) fresh.2
      fun d hd => ?_)
    rcases List.mem_append.mp hd with hpast | hlast
    · exact Nat.lt_succ_of_lt (before d hpast)
    · rw [actor_of_mem_stepDeeds hlast]
      exact Nat.lt_succ_self number

/-- **The invariant in every session** that begins with an empty table. -/
theorem lineage (s : Session) (empty : s.store.rows = []) {steps : List Step}
    (ordinary : ∀ step ∈ steps, step.isOrdinary) (fresh : s.FreshLogins steps) :
    Lineage (s.deeds 0 steps) (s.after steps).store.rows.births := by
  have hstart : Lineage [] s.store.rows.births := by
    rw [empty]
    exact Lineage.nil
  exact (s.history 0 steps).lineage
    (s.legitimate ordinary fresh fun d hd => absurd hd List.not_mem_nil) hstart

end Session

end TokenRotation
