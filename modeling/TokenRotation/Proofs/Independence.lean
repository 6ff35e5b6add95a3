import TokenRotation.Proofs.Confinement
import TokenRotation.Session.Sample

/-!
# Independent operations

Two operations on different families commute: one after the other they come to the same answers and
the same rows, whichever comes first, as long as neither sweeps a subject that has to do with the
family of the other, neither draws what the other draws or presents, and neither is broken off in
memory, where it would poison the lock for the other. Each has a region of the
table to itself, is confined to it, and so cannot tell whether the other has been there.

* `Session.Operation` -- a piece of work with its own clock and its own draws;
* `Session.Operation.Spares` -- what is asked of one operation, of the other;
* `Session.Operation.region` -- the region that an operation has to itself;
* `Session.independent` -- **operations that spare each other commute**, on a store of either kind.
-/

namespace TokenRotation

open Store

/-! ## 1. Where rows come from -/

/-- A row of a history was there at its beginning, or was offered to the store in one of its
    deeds. -/
theorem History.origin {k : StoreKind} {rows after : Table} {deeds : List Deed}
    (h : History k rows deeds after) {r : Row} (hr : r ∈ after) :
    (∃ r₀ ∈ rows, r₀.Evolves r) ∨
      ∃ d ∈ deeds, ∃ token, d.call = .insert token ∧ (k.keepRow token.row).Evolves r := by
  induction h with
  | nil => exact .inl ⟨r, hr, Row.Evolves.refl r⟩
  | @cons d rest after lawful _ ih =>
    rcases ih hr with ⟨s, hs, hsr⟩ | ⟨e, he, hrest⟩
    · rcases lawful.adds_or_evolves with ⟨token, hcall, -, -, hafter⟩ | ⟨-, hrows⟩
      · rw [hafter] at hs
        rcases List.mem_append.mp hs with hs | hs
        · exact .inl ⟨s, hs, hsr⟩
        · rw [List.mem_singleton.mp hs] at hsr
          exact .inr ⟨d, List.mem_cons_self, token, hcall, hsr⟩
      · obtain ⟨r₀, hr₀, hr₀s⟩ := Table.exists_mem_of_forall₂ hrows hs
        exact .inl ⟨r₀, hr₀, hr₀s.trans hsr⟩
    · exact .inr ⟨e, List.mem_cons_of_mem d he, hrest⟩

namespace Session

/-! ## 2. Operations -/

/-- The work is one of the operations on tokens: consuming, rotating, issuing, logging out and
    revoking. -/
def Work.isOperation : Work → Bool
  | .issue .. | .consume _ | .rotate _ | .logout _ | .logoutEverywhere _ | .revokeFamily _
  | .revokeSubject _ => true
  | _ => false

/-- A piece of work with its own clock and its own draws. -/
structure Operation where
  work : Work
  clock : Clock
  draws : Draws

namespace Operation

/-- The step that asks for the operation, without faults. -/
def step (a : Operation) : Step := { command := .work a.work, clock := a.clock }

/-- The session about to draw what the operation draws. -/
def enter (a : Operation) (s : Session) : Session := { s with draws := a.draws }

/-- The operation in a session. -/
def take (a : Operation) (s : Session) : Report × Session := (a.enter s).take a.step

/-- The token that the operation presents. -/
def presented? (a : Operation) : Option String :=
  match a.work with
  | .consume token | .rotate token | .logout token | .logoutEverywhere token => some token
  | _ => none

/-- The family that the operation addresses: the one that it names, the one of the token that it
    presents, or the one that it draws. -/
def family? (a : Operation) (s : Session) : Option Uuid :=
  match a.work with
  | .consume token | .rotate token | .logout token | .logoutEverywhere token =>
    (s.store.rows.byHash? (hashOf token)).map Row.family
  | .revokeFamily family | .issue _ (some family) => some family
  | .issue _ none => some a.draws.uuid.1
  | _ => none

/-- The subject that the operation sweeps: the one that it names, or the one of a token that
    entitles to a logout. -/
def swept? (a : Operation) (s : Session) : Option String :=
  match a.work, a.clock.now with
  | .revokeSubject subject, _ => some subject
  | .logoutEverywhere token, .ok now =>
    ((s.store.rows.byHash? (hashOf token)).filter fun row =>
      row.revokedAt.isNone && now ≤ row.expiresAt).map Row.subject
  | _, _ => none

/-- The new tokens that the operation offers to the store of a session. -/
def offers (a : Operation) (s : Session) : List NewToken :=
  ((a.enter s).stepDeeds 0 a.step).filterMap fun d =>
    match d.call with
    | .insert token => some token
    | _ => none

/-- **The one operation spares the other**: it addresses another family, sweeps no subject that has
    to do with the other's, draws nothing that the other draws or presents, and is not broken off in
    memory. -/
structure Spares (s : Session) (a b : Operation) : Prop where
  family : ∀ f ∈ a.family? s, f ∉ b.family? s
  swept : ∀ u ∈ a.swept? s, u ∉ b.swept? s ∧
    (∀ f ∈ b.family? s, ∀ r ∈ s.store.rows, r.family = f → r.subject ≠ u) ∧
      ∀ token ∈ b.offers s, token.subject ≠ u
  drawn : ∀ token ∈ a.offers s, s.store.rows.hasId token.id = false ∧
    (∀ other ∈ b.offers s, token.id ≠ other.id ∧ token.hash ≠ other.hash) ∧
      ∀ presented ∈ b.presented?, token.hash ≠ hashOf presented
  unbroken : s.store.kind = .durable ∨ (a.take s).1.outcome.isAborted = false

instance (s : Session) (a b : Operation) : Decidable (Spares s a b) :=
  decidable_of_iff ((∀ f ∈ a.family? s, f ∉ b.family? s) ∧
      (∀ u ∈ a.swept? s, u ∉ b.swept? s ∧
        (∀ f ∈ b.family? s, ∀ r ∈ s.store.rows, r.family = f → r.subject ≠ u) ∧
          ∀ token ∈ b.offers s, token.subject ≠ u) ∧
        (∀ token ∈ a.offers s, s.store.rows.hasId token.id = false ∧
          (∀ other ∈ b.offers s, token.id ≠ other.id ∧ token.hash ≠ other.hash) ∧
            ∀ presented ∈ b.presented?, token.hash ≠ hashOf presented) ∧
          (s.store.kind = .durable ∨ (a.take s).1.outcome.isAborted = false))
    ⟨fun h => ⟨h.1, h.2.1, h.2.2.1, h.2.2.2⟩,
      fun h => ⟨h.family, h.swept, h.drawn, h.unbroken⟩⟩

/-- The region that the operation has to itself beside another one: the subject that it sweeps, less
    the family of the other, or else its family. -/
def region (a b : Operation) (s : Session) : Region := fun subject family =>
  decide ((a.swept? s = some subject ∧ b.family? s ≠ some family) ∨
    (a.swept? s = none ∧ a.family? s = some family))

variable {s : Session} {a b : Operation}

theorem within_region_iff {r : Row} : r.within (a.region b s) ↔
    (a.swept? s = some r.subject ∧ b.family? s ≠ some r.family) ∨
      (a.swept? s = none ∧ a.family? s = some r.family) := by
  simp only [Row.within, region, decide_eq_true_eq]

/-- Operations that spare each other have no row in common. -/
theorem Spares.disjoint (h : Spares s a b) {r : Row} (hr : r.within (a.region b s)) :
    r.within (b.region a s) = false := by
  rw [← Bool.not_eq_true, within_region_iff]
  rcases within_region_iff.mp hr with ⟨hswept, hapart⟩ | ⟨hnone, hfamily⟩
  · rintro (⟨hswept', -⟩ | ⟨-, hfamily'⟩)
    · exact (h.swept _ hswept).1 hswept'
    · exact hapart hfamily'
  · rintro (⟨-, hapart'⟩ | ⟨-, hfamily'⟩)
    · exact hapart' hfamily
    · exact h.family _ hfamily hfamily'

/-! ## 3. What an operation finds of another one -/

/-- The world that the operation meets in a session. -/
def world (a : Operation) (s : Session) : Program.World AnyStore := (a.enter s).world a.step

/-- The program of the operation in a session. -/
def program (a : Operation) (s : Session) : Program Value := a.work.program s.settings a.clock

/-- A row that was there when the operation began, or that the operation offered. -/
def Left (a : Operation) (s : Session) (r : Row) : Prop :=
  (∃ r₀ ∈ s.store.rows, r₀.Evolves r) ∨
    ∃ token ∈ a.offers s, (s.store.kind.keepRow token.row).Evolves r

theorem mem_offers {token : NewToken} :
    token ∈ a.offers s ↔ ∃ d ∈ (a.enter s).stepDeeds 0 a.step, d.call = .insert token := by
  simp only [offers, List.mem_filterMap]
  refine exists_congr fun d => and_congr_right fun _ => ?_
  cases d.call <;> simp

/-- The table after an operation: the rows went on from where they were, and what was added was
    offered. -/
theorem left_of_mem {r : Row} (hr : r ∈ (a.take s).2.store.rows) : a.Left s r := by
  rcases ((a.enter s).history_take 0 a.step).1.origin hr with h | ⟨d, hd, token, hcall, hrow⟩
  · exact .inl h
  · exact .inr ⟨token, mem_offers.mpr ⟨d, hd, hcall⟩, hrow⟩

/-- The session is the first one, or the one after the other operation. -/
def Reached (b : Operation) (s s' : Session) : Prop := s' = s ∨ s' = (b.take s).2

variable {s' : Session} {r : Row} {token : String}

theorem Reached.left (h : b.Reached s s') (hr : r ∈ s'.store.rows) : b.Left s r := by
  rcases h with rfl | rfl
  · exact .inl ⟨r, hr, Row.Evolves.refl r⟩
  · exact left_of_mem hr

theorem Reached.evolves (h : b.Reached s s') : s.store.rows.Evolves s'.store.rows := by
  rcases h with rfl | rfl
  · exact Table.Evolves.refl _
  · exact ((b.enter s).history_take 0 b.step).1.evolves

/-- The other operation leaves a free hash of an offered token free, and a taken one taken. -/
theorem Reached.hasHash_eq (h : b.Reached s s') (hab : Spares s a b) (m : Region)
    {new : NewToken} (hnew : new ∈ a.offers s) :
    (s'.store.rows.beyond m).hasHash new.hash = (s.store.rows.beyond m).hasHash new.hash := by
  rw [Bool.eq_iff_iff, Table.hasHash, Table.hasHash, List.any_eq_true, List.any_eq_true]
  simp only [decide_eq_true_eq]
  constructor
  · rintro ⟨r, hr, hhash⟩
    obtain ⟨hmem, hout⟩ := Table.mem_beyond.mp hr
    rcases h.left hmem with ⟨r₀, hr₀, hrow⟩ | ⟨other, hother, hrow⟩
    · exact ⟨r₀, Table.mem_beyond.mpr ⟨hr₀, hrow.within_eq m ▸ hout⟩, hrow.hash ▸ hhash⟩
    · rw [hrow.hash, StoreKind.keepRow_hash] at hhash
      exact absurd hhash.symm ((hab.drawn new hnew).2.1 other hother).2
  · rintro ⟨r₀, hr₀, hhash⟩
    obtain ⟨hmem, hout⟩ := Table.mem_beyond.mp hr₀
    obtain ⟨r, hr, hrow⟩ := h.evolves.exists_mem hmem
    exact ⟨r, Table.mem_beyond.mpr ⟨hr, (hrow.within_eq m).trans hout⟩, hrow.hash.trans hhash⟩

theorem Reached.hasId_eq (h : b.Reached s s') (hab : Spares s a b) {new : NewToken}
    (hnew : new ∈ a.offers s) : s'.store.rows.hasId new.id = false := by
  obtain ⟨hid, hothers, -⟩ := hab.drawn new hnew
  rw [Table.hasId_eq_false_iff] at hid ⊢
  intro r hr
  rcases h.left hr with ⟨r₀, hr₀, hrow⟩ | ⟨other, hother, hrow⟩
  · rw [hrow.id]
    exact hid r₀ hr₀
  · have kept : (s.store.kind.keepRow other.row).id = other.id := by cases s.store.kind <;> rfl
    rw [hrow.id, kept]
    exact (hothers other hother).1.symm

/-- The region of the operation, and what is around it without and with the other one. -/
def beside (hab : Spares s a b) (h : b.Reached s s') : Surroundings where
  kind := s.store.kind
  region := a.region b s
  first := s.store.rows.beyond (a.region b s)
  second := s'.store.rows.beyond (a.region b s)
  own := fun new => new ∈ a.offers s
  newIds := fun new hnew => by
    have without {rows : Table} (hid : rows.hasId new.id = false) :
        (rows.beyond (a.region b s)).hasId new.id = false := by
      rw [Table.hasId_eq_false_iff] at hid ⊢
      exact fun r hr => hid r (Table.mem_beyond.mp hr).1
    exact ⟨without (hab.drawn new hnew).1, without (h.hasId_eq hab hnew)⟩
  hashes := fun new hnew => h.hasHash_eq hab _ hnew

section Around

variable (hab : Spares s a b) (h : b.Reached s s')

theorem mem_around (hr : r ∈ (beside hab h).around) :
    r.within (a.region b s) = false ∧ b.Left s r := by
  rcases List.mem_append.mp hr with hr | hr
  · obtain ⟨hmem, hout⟩ := Table.mem_beyond.mp hr
    exact ⟨hout, .inl ⟨r, hmem, Row.Evolves.refl r⟩⟩
  · obtain ⟨hmem, hout⟩ := Table.mem_beyond.mp hr
    exact ⟨hout, h.left hmem⟩

/-- No row around the region is of the family of an operation that sweeps no subject. -/
theorem family_ne_of_around (unswept : a.swept? s = none) {f : Uuid} (hf : a.family? s = some f)
    (hr : r ∈ (beside hab h).around) : r.family ≠ f := by
  rintro rfl
  have hin : r.within (a.region b s) := within_region_iff.mpr (.inr ⟨unswept, hf⟩)
  rw [(mem_around hab h hr).1] at hin
  cases hin

/-- No row around the region is of the subject that the operation sweeps. -/
theorem subject_ne_of_around {u : String} (hu : a.swept? s = some u)
    (hr : r ∈ (beside hab h).around) : r.subject ≠ u := by
  rintro rfl
  obtain ⟨hout, hleft⟩ := mem_around hab h hr
  obtain ⟨-, hfamily, hoffers⟩ := hab.swept _ hu
  have hf : b.family? s = some r.family := by
    by_contra hapart
    rw [within_region_iff.mpr (.inl ⟨hu, hapart⟩)] at hout
    cases hout
  rcases hleft with ⟨r₀, hr₀, hrow⟩ | ⟨other, hother, hrow⟩
  · exact hfamily _ hf r₀ hr₀ hrow.family.symm hrow.subject.symm
  · refine hoffers other hother ?_
    rw [hrow.subject, StoreKind.keepRow_subject]
    rfl

/-- The row of the presented token is in the region of the operation, and so is its family. -/
theorem within_of_presented (hab : Spares s a b) (presented : a.presented? = some token)
    (found : s.store.rows.byHash? (hashOf token) = some r) :
    a.family? s = some r.family ∧ r.within (a.region b s) := by
  have hfamily : a.family? s = some r.family := by
    unfold presented? at presented
    unfold family?
    split at presented <;> simp_all
  have hswept (u : String) (hu : a.swept? s = some u) : u = r.subject := by
    unfold presented? at presented
    unfold swept? at hu
    split at hu
    · next hwork =>
      rw [hwork] at presented
      cases presented
    · next other now hwork shown =>
      rw [hwork] at presented
      cases presented
      rw [found] at hu
      obtain ⟨row, hrow, rfl⟩ := Option.map_eq_some_iff.mp hu
      cases (Option.filter_eq_some_iff.mp hrow).1
      rfl
    · cases hu
  refine ⟨hfamily, within_region_iff.mpr ?_⟩
  cases hu : a.swept? s with
  | none => exact .inr ⟨rfl, hfamily⟩
  | some u => exact .inl ⟨congrArg some (hswept u hu), hab.family _ hfamily⟩

/-- No row around the region has the hash of the presented token. -/
theorem hash_ne_of_around (hba : Spares s b a) (hashes : s.store.rows.HashesDistinct)
    (presented : a.presented? = some token) (hr : r ∈ (beside hab h).around) :
    r.hash ≠ hashOf token := by
  obtain ⟨hout, hleft⟩ := mem_around hab h hr
  intro hhash
  rcases hleft with ⟨r₀, hr₀, hrow⟩ | ⟨other, hother, hrow⟩
  · have found : s.store.rows.byHash? (hashOf token) = some r₀ := by
      rw [← hhash, hrow.hash]
      exact Table.byHash?_of_mem hashes hr₀
    rw [hrow.within_eq, (within_of_presented hab presented found).2] at hout
    cases hout
  · rw [hrow.hash, StoreKind.keepRow_hash] at hhash
    exact (hba.drawn other hother).2.2 token presented hhash

/-- **An operation is confined** to its region, beside another one. -/
theorem confined (hba : Spares s b a) (hashes : s.store.rows.HashesDistinct)
    (asked : a.work.isOperation) {v : Program.World AnyStore} :
    Program.ConfinedIn (a.world s) v (beside hab h)
      (s.store.rows.within (a.region b s)) (fun _ _ => True) (a.program s) := by
  have hash {token : String} (presented : a.presented? = some token) :
      ∀ r ∈ (beside hab h).around, r.hash ≠ hashOf token :=
    fun r hr => hash_ne_of_around hab h hba hashes presented hr
  -- a row that is found in the region is the one that is found in the table
  have found {token : String} {row : Row}
      (hrow : row ∈ (s.store.rows.within (a.region b s)).byHash? (hashOf token)) :
      s.store.rows.byHash? (hashOf token) = some row := by
    rw [← Table.hash_of_byHash? hrow]
    exact Table.byHash?_of_mem hashes (Table.mem_within.mp (Table.mem_of_byHash? hrow)).1
  have families {token : String} (presented : a.presented? = some token)
      (unswept : a.swept? s = none) :
      ∀ row ∈ (s.store.rows.within (a.region b s)).byHash? (hashOf token),
        ∀ r ∈ (beside hab h).around, r.family ≠ row.family := fun row hrow r hr =>
    family_ne_of_around hab h unswept (within_of_presented hab presented (found hrow)).1 hr
  have new : ∀ t, (beside hab h).own t →
      (s.store.rows.within (a.region b s)).hasId t.id = false := by
    intro t ht
    have hid := (hab.drawn t ht).1
    rw [Table.hasId_eq_false_iff] at hid ⊢
    exact fun r hr => hid r (Table.mem_within.mp hr).1
  obtain ⟨work, clock, draws⟩ := a
  cases work with
  | issue subject family =>
    refine Program.confinedIn_now_bind fun now _ => (Service.issue_confined ?_ new).map
    refine decide_eq_true (.inr ⟨rfl, ?_⟩)
    cases family <;> rfl
  | consume token =>
    exact (Service.consume_confined ⟨hash rfl, families rfl rfl⟩ _ _).map
  | rotate token =>
    exact (Service.rotate_confined ⟨hash rfl, families rfl rfl⟩ new _ _).map
  | logout token =>
    exact Program.confinedIn_now_bind fun now _ =>
      (Service.logout_confined (hash rfl) (families rfl rfl) _ _).map
  | logoutEverywhere token =>
    refine Program.confinedIn_now_bind fun now shown =>
      (Service.logoutEverywhere_confined (hash rfl) (fun row hrow live intime r hr => ?_) _ _).map
    refine subject_ne_of_around hab h ?_ hr
    simp [swept?, shown, found hrow, live, intime]
  | revokeFamily family =>
    exact Program.confinedIn_now_bind fun now _ =>
      (Service.revokeFamily_confined now
        (fun r hr => family_ne_of_around hab h rfl rfl hr) _ _).map
  | revokeSubject subject =>
    exact Program.confinedIn_now_bind fun now _ =>
      (Service.revokeSubject_confined now
        (fun r hr => subject_ne_of_around hab h rfl hr) _ _).map
  | _ => cases asked

end Around

end Operation

/-! ## 4. Commutation -/

namespace Operation

variable {s : Session} {a b : Operation}

/-- **Two operations commute**: each answers and logs the same before the other and after it, and
    the rows are the same in the end. -/
structure Commute (s : Session) (a b : Operation) : Prop where
  first : (a.take (b.take s).2).1.outcome = (a.take s).1.outcome ∧
    (a.take (b.take s).2).1.log = (a.take s).1.log
  second : (b.take (a.take s).2).1.outcome = (b.take s).1.outcome ∧
    (b.take (a.take s).2).1.log = (b.take s).1.log
  rows : (b.take (a.take s).2).2.store.rows.Perm (a.take (b.take s).2).2.store.rows

/-- What an operation comes to in a session that is the same in its region, and what it leaves. -/
structure Unmoved (s s' : Session) (a b : Operation) : Prop where
  outcome : (a.take s').1.outcome = (a.take s).1.outcome
  log : (a.take s').1.log = (a.take s).1.log
  inside : (a.take s').2.store.rows.within (a.region b s) =
    (a.take s).2.store.rows.within (a.region b s)
  around : (a.take s).2.store.rows.beyond (a.region b s) = s.store.rows.beyond (a.region b s)
  around' : (a.take s').2.store.rows.beyond (a.region b s) = s'.store.rows.beyond (a.region b s)
  ready : ((a.take s).2.store.withFaults []).IsReady
  ids : (a.take s).2.store.rows.IdsDistinct

/-- **An operation is not moved** by another one that left its region as it was. -/
theorem unmoved (hab : Spares s a b) (hba : Spares s b a) {s' : Session} (h : b.Reached s s')
    (asked : a.work.isOperation) (hashes : s.store.rows.HashesDistinct)
    (ready : (s.store.withFaults []).IsReady) (ready' : (s'.store.withFaults []).IsReady)
    (ids : s.store.rows.IdsDistinct) (ids' : s'.store.rows.IdsDistinct)
    (same : s'.store.rows.within (a.region b s) = s.store.rows.within (a.region b s)) :
    Unmoved s s' a b := by
  have hrows (t : Session) : (a.world t).store.rows = t.store.rows := AnyStore.rows_withFaults _ _
  have kind : s'.store.kind = s.store.kind := by
    rcases h with rfl | rfl
    · rfl
    · exact ((b.enter s).history_take 0 b.step).2
  have server : s'.store.server = s.store.server := by
    rcases h with rfl | rfl
    · rfl
    · exact server_take (b.enter s) b.step
  have alike : (beside hab h).Alike (a.world s) (a.world s') :=
    { ready, ready'
      kind := AnyStore.kind_withFaults _ _
      kind' := (AnyStore.kind_withFaults _ _).trans kind
      server := ((AnyStore.server_withFaults _ _).trans server).trans
        (AnyStore.server_withFaults _ _).symm
      ids := (hrows s).symm ▸ ids
      ids' := (hrows s').symm ▸ ids'
      inside := by rw [hrows, hrows]; exact same
      around := by rw [hrows]; rfl
      around' := by rw [hrows]; rfl
      draws := rfl
      log := rfl }
  have hrun : (a.program s).run (a.world s') = (a.program s').run (a.world s') := by
    rcases h with rfl | rfl <;> rfl
  obtain ⟨alike', hend, -⟩ := confined hab h hba hashes asked 0 alike
    (by rw [hrows]; rfl) (fun d hd token hcall => mem_offers.mpr ⟨d, hd, hcall⟩) hab.unbroken
  rw [hrun] at alike' hend
  exact ⟨hend, alike'.log, alike'.inside, alike'.around, alike'.around',
    alike'.ready.withFaults_nil, alike'.ids⟩

end Operation

end Session

namespace Table

/-- Where nothing changed around a region, nothing changed in a region apart from it. -/
theorem within_eq_of_beyond {m n : Region} {rows rows' : Table}
    (disjoint : ∀ r : Row, r.within m → r.within n = false)
    (around : rows'.beyond n = rows.beyond n) : rows'.within m = rows.within m := by
  have inside (rows : Table) : rows.within m = (rows.beyond n).within m := by
    rw [Table.within, Table.within, Table.beyond, List.filter_filter]
    refine List.filter_congr fun r _ => ?_
    cases hr : r.within m with
    | false => simp
    | true => simp [disjoint r hr]
  rw [inside, inside rows, around]

theorem count_of_within {m : Region} {rows rows' : Table} (same : rows'.within m = rows.within m)
    {r : Row} (hr : r.within m) : rows'.count r = rows.count r := by
  have counted (rows : Table) : (rows.within m).count r = rows.count r := List.count_filter hr
  rw [← counted, same, counted]

theorem count_of_beyond {m : Region} {rows rows' : Table} (same : rows'.beyond m = rows.beyond m)
    {r : Row} (hr : r.within m = false) : rows'.count r = rows.count r := by
  have counted (rows : Table) : (rows.beyond m).count r = rows.count r :=
    List.count_filter (by simpa using hr)
  rw [← counted, same, counted]

end Table

namespace Session

open Table

/-- **Independent operations commute**: on a store of either kind, without faults or forced
    collisions, and for every table of distinct identifiers and hashes, two operations that spare
    each other come to the same answers, the same logs and the same rows in either order. -/
theorem independent (s : Session) (ready : (s.store.withFaults []).IsReady)
    (ids : s.store.rows.IdsDistinct) (hashes : s.store.rows.HashesDistinct) {a b : Operation}
    (asked : a.work.isOperation) (asked' : b.work.isOperation) (hab : Operation.Spares s a b)
    (hba : Operation.Spares s b a) : Operation.Commute s a b := by
  have alone := Operation.unmoved hab hba (.inl rfl) asked hashes ready ready ids ids rfl
  have alone' := Operation.unmoved hba hab (.inl rfl) asked' hashes ready ready ids ids rfl
  have second := Operation.unmoved hab hba (.inr rfl) asked hashes ready alone'.ready ids alone'.ids
    (within_eq_of_beyond (fun _ => hab.disjoint) alone'.around)
  have second' := Operation.unmoved hba hab (.inr rfl) asked' hashes ready alone.ready ids alone.ids
    (within_eq_of_beyond (fun _ => hba.disjoint) alone.around)
  refine ⟨⟨second.outcome, second.log⟩, ⟨second'.outcome, second'.log⟩, ?_⟩
  -- a row is looked for in the region of the one, of the other, and around both
  rw [List.perm_iff_count]
  intro r
  cases hr : r.within (a.region b s) with
  | true =>
    have hr' := hab.disjoint hr
    exact (count_of_beyond second'.around' hr').trans (count_of_within second.inside hr).symm
  | false =>
    cases hr' : r.within (b.region a s) with
    | true =>
      exact (count_of_within second'.inside hr').trans (count_of_beyond second.around' hr).symm
    | false =>
      calc (b.take (a.take s).2).2.store.rows.count r
        _ = (a.take s).2.store.rows.count r := count_of_beyond second'.around' hr'
        _ = s.store.rows.count r := count_of_beyond alone.around hr
        _ = (b.take s).2.store.rows.count r := (count_of_beyond alone'.around hr').symm
        _ = (a.take (b.take s).2).2.store.rows.count r := (count_of_beyond second.around' hr).symm

/-- Alice rotates her token on a database while Bob, in another family, logs out everywhere: whoever
    comes first, she is answered a successor, and he that his one token was revoked. -/
theorem independent_of_logout :
    let alices := (Secret.ofNat 100).token
    let bobs := (Secret.ofNat 200).token
    let alice := sampleRow alices "alice" (.ofLists [] [])
    let bob := sampleRow bobs "bob" alice.2
    let s : Session := { store := .durableOf [alice.1, bob.1] { reachable := true }, draws := bob.2
                         settings := .trial .default }
    let a : Operation := { work := .rotate alices, clock := .fixed sampleInstant, draws := bob.2 }
    let b : Operation :=
      { work := .logoutEverywhere bobs, clock := .fixed sampleInstant, draws := alice.2 }
    Operation.Commute s a b ∧ (b.take s).1.outcome = .done (.count 1) ∧
      (a.take s).1.outcome.isAborted = false ∧ (a.offers s).length = 1 := by
  intro alices bobs alice bob s a b
  have facts : ((s.store.withFaults []).IsReady ∧ s.store.rows.IdsDistinct ∧
      s.store.rows.HashesDistinct ∧ Operation.Spares s a b ∧ Operation.Spares s b a) ∧
        (b.take s).1.outcome = .done (.count 1) ∧ (a.take s).1.outcome.isAborted = false ∧
          (a.offers s).length = 1 := by
    decide +kernel
  obtain ⟨⟨ready, ids, hashes, hab, hba⟩, ends⟩ := facts
  exact ⟨independent s ready ids hashes rfl rfl hab hba, ends⟩

end Session

end TokenRotation
