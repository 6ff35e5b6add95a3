import Mathlib.Logic.Relator
import TokenRotation.Proofs.Twins

/-!
# Tables under other hashes

A store looks at a hash only to tell whether it is another one. So two stores whose rows differ in
nothing but their hashes answer every call alike, provided that the hashes of the one stand in a
one-to-one correspondence to the hashes of the other: the same verdicts, the same failures, the same
events, and tables that differ in nothing but their hashes again. The correspondence is a relation
`R` between texts; nothing is asked of the order of the hashes or of how they came about.

A database has the hashes in its hands, and the log tells what it says of its errors. Where it
refuses a row for a constraint it may name the very hash of it, but nobody hears of that: such
errors are not logged. What is left to be asked of a server is that it does not tell of the hash
beside a text that it cannot keep.

* `Row.Renamed`, `Table.Renamed`, `AnyStore.Renamed` -- the same but for the hashes;
* `Store.Server.IsDiscreet` -- what is asked of a server;
* `Store.DatabaseError.Alike` -- two errors of which the log and the caller hear the same;
* `Store.Attempt.Parallels` -- two attempts that do the same on every wire to a server;
* `AnyStore.Renamed.perform` -- **renamed stores answer a call alike**, and stay renamed.
-/

namespace TokenRotation

open Store

/-! ## 1. Rows and tables -/

/-- The second row is the first under another hash, the one that corresponds to its own. -/
def Row.Renamed (R : String → String → Prop) (r s : Row) : Prop :=
  ∃ hash, R r.hash hash ∧ s = { r with hash }

/-- The second table has the rows of the first under other hashes, in the same order. -/
abbrev Table.Renamed (R : String → String → Prop) : Table → Table → Prop :=
  List.Forall₂ (Row.Renamed R)

variable {R : String → String → Prop}

namespace Row.Renamed

variable {r s r' s' : Row}

theorem of_hash (r : Row) {hash : String} (h : R r.hash hash) : Row.Renamed R r { r with hash } :=
  ⟨hash, h, rfl⟩

theorem hash (h : Row.Renamed R r s) : R r.hash s.hash := by
  obtain ⟨hash, h, rfl⟩ := h
  exact h

theorem id (h : Row.Renamed R r s) : s.id = r.id := by
  obtain ⟨hash, -, rfl⟩ := h
  rfl

theorem family (h : Row.Renamed R r s) : s.family = r.family := by
  obtain ⟨hash, -, rfl⟩ := h
  rfl

theorem subject (h : Row.Renamed R r s) : s.subject = r.subject := by
  obtain ⟨hash, -, rfl⟩ := h
  rfl

theorem revokedAt (h : Row.Renamed R r s) : s.revokedAt = r.revokedAt := by
  obtain ⟨hash, -, rfl⟩ := h
  rfl

/-- A row is judged without a look at its hash. -/
theorem judge (h : Row.Renamed R r s) (now : Instant) (policy : Policy) :
    s.judge now policy = r.judge now policy := by
  obtain ⟨hash, -, rfl⟩ := h
  rfl

theorem status (h : Row.Renamed R r s) (now : Instant) : s.status now = r.status now := by
  obtain ⟨hash, -, rfl⟩ := h
  rfl

theorem stored (h : Row.Renamed R r s) : Row.Renamed R r.stored s.stored := by
  obtain ⟨hash, h, rfl⟩ := h
  exact of_hash r.stored h

theorem stamp (h : Row.Renamed R r s) (c g : Instant) :
    Row.Renamed R (r.stamp c g) (s.stamp c g) := by
  obtain ⟨hash, h, rfl⟩ := h
  by_cases hc : r.consumedAt.isNone
  · simp only [Row.stamp, hc, if_true]
    exact of_hash { r with consumedAt := some c, graceExpiresAt := some g } h
  · simp only [Row.stamp, hc, if_false, Bool.false_eq_true]
    exact of_hash r h

theorem revoke (h : Row.Renamed R r s) (now : Instant) :
    Row.Renamed R (r.revoke now) (s.revoke now) := by
  obtain ⟨hash, h, rfl⟩ := h
  by_cases hr : r.revokedAt.isNone
  · simp only [Row.revoke, hr, if_true]
    exact of_hash { r with revokedAt := some now } h
  · simp only [Row.revoke, hr, if_false, Bool.false_eq_true]
    exact of_hash r h

theorem link (h : Row.Renamed R r s) (successor : Uuid) :
    Row.Renamed R { r with replacedBy := some successor }
      { s with replacedBy := some successor } := by
  obtain ⟨hash, h, rfl⟩ := h
  exact of_hash { r with replacedBy := some successor } h

theorem unlinked_eq (h : Row.Renamed R r s) (id : Uuid) : s.unlinked id = r.unlinked id := by
  obtain ⟨hash, -, rfl⟩ := h
  rfl

/-- Siblings stay siblings. -/
theorem sibling_agrees (h : Row.Renamed R r s) (t u : Row) (htu : Row.Renamed R t u) :
    decide (u.family = s.family) = decide (t.family = r.family) := by
  rw [htu.family, h.family]

/-- The first row is the second under its own hash again. -/
theorem eq_restore (h : Row.Renamed R r s) : r = { s with hash := r.hash } := by
  obtain ⟨hash, -, rfl⟩ := h
  rfl

/-- Rows are told apart as they were. -/
theorem eq_iff (one : Relator.BiUnique R) (h : Row.Renamed R r s) (h' : Row.Renamed R r' s') :
    r = r' ↔ s = s' := by
  have hashes : r.hash = r'.hash ↔ s.hash = s'.hash := Relator.rel_eq one h.hash h'.hash
  constructor
  · rintro rfl
    obtain ⟨hash, -, rfl⟩ := h
    obtain ⟨hash', -, rfl⟩ := h'
    obtain rfl : hash = hash' := hashes.mp rfl
    rfl
  · intro same
    have hhash : r.hash = r'.hash := hashes.mpr (congrArg Row.hash same)
    calc r = { s with hash := r.hash } := h.eq_restore
      _ = { s' with hash := r'.hash } := by rw [same, hhash]
      _ = r' := h'.eq_restore.symm

end Row.Renamed

namespace Table.Renamed

variable {rows rows' : Table} {hash hash' : String}

theorem any_eq {chosen chosen' : Row → Bool} (h : Table.Renamed R rows rows')
    (agree : ∀ r s, Row.Renamed R r s → chosen' s = chosen r) :
    rows'.any chosen' = rows.any chosen := by
  induction h with
  | nil => rfl
  | cons hrow _ ih => rw [List.any_cons, List.any_cons, agree _ _ hrow, ih]

theorem isEmpty_eq (h : Table.Renamed R rows rows') : rows'.isEmpty = rows.isEmpty := by
  cases h <;> rfl

theorem hash_agrees (one : Relator.BiUnique R) (hhash : R hash hash') (r s : Row)
    (h : Row.Renamed R r s) : decide (s.hash = hash') = decide (r.hash = hash) :=
  decide_eq_decide.mpr (Relator.rel_eq one h.hash hhash).symm

theorem hasHash_eq (one : Relator.BiUnique R) (h : Table.Renamed R rows rows')
    (hhash : R hash hash') : rows'.hasHash hash' = rows.hasHash hash :=
  any_eq h (hash_agrees one hhash)

theorem hasId_eq (h : Table.Renamed R rows rows') (id : Uuid) :
    rows'.hasId id = rows.hasId id :=
  any_eq h fun r s hrow => by rw [hrow.id]

/-- The row of a hash is found under the hash that corresponds to it. -/
theorem byHash? (one : Relator.BiUnique R) (h : Table.Renamed R rows rows')
    (hhash : R hash hash') :
    Option.Rel (Row.Renamed R) (rows.byHash? hash) (rows'.byHash? hash') := by
  unfold Table.byHash?
  induction h with
  | nil => exact .none
  | cons hrow _ ih =>
    rw [List.find?_cons, List.find?_cons, hash_agrees one hhash _ _ hrow]
    split
    · exact .some hrow
    · exact ih

theorem changeFirst {chosen chosen' : Row → Bool} {change : Row → Row}
    (h : Table.Renamed R rows rows') (agree : ∀ r s, Row.Renamed R r s → chosen' s = chosen r)
    (keeps : ∀ r s, Row.Renamed R r s → Row.Renamed R (change r) (change s)) :
    Table.Renamed R (rows.changeFirst chosen change) (rows'.changeFirst chosen' change) := by
  induction h with
  | nil => exact .nil
  | @cons r s rest rest' hrow hrest ih =>
    simp only [Table.changeFirst, agree r s hrow]
    split
    · exact .cons (keeps r s hrow) hrest
    · exact .cons hrow ih

theorem changeAll {chosen chosen' : Row → Bool} {change : Row → Row}
    (h : Table.Renamed R rows rows') (agree : ∀ r s, Row.Renamed R r s → chosen' s = chosen r)
    (keeps : ∀ r s, Row.Renamed R r s → Row.Renamed R (change r) (change s)) :
    Table.Renamed R (rows.changeAll chosen change) (rows'.changeAll chosen' change) := by
  unfold Table.changeAll Table.Renamed
  rw [List.forall₂_map_left_iff, List.forall₂_map_right_iff]
  refine h.imp fun r s hrow => ?_
  rw [agree r s hrow]
  split
  · exact keeps r s hrow
  · exact hrow

theorem sweep {chosen chosen' : Row → Bool} (h : Table.Renamed R rows rows')
    (agree : ∀ r s, Row.Renamed R r s → chosen' s = chosen r) (now : Instant) :
    Table.Renamed R (rows.sweep chosen now) (rows'.sweep chosen' now) :=
  changeAll h agree fun _ _ hrow => hrow.revoke now

theorem sweepCount_eq {chosen chosen' : Row → Bool} (h : Table.Renamed R rows rows')
    (agree : ∀ r s, Row.Renamed R r s → chosen' s = chosen r) :
    rows'.sweepCount chosen' = rows.sweepCount chosen := by
  unfold Table.sweepCount
  induction h with
  | nil => rfl
  | cons hrow _ ih =>
    rw [List.countP_cons, List.countP_cons, ih, agree _ _ hrow, hrow.revokedAt]

theorem filter {chosen chosen' : Row → Bool} (h : Table.Renamed R rows rows')
    (agree : ∀ r s, Row.Renamed R r s → chosen' s = chosen r) :
    Table.Renamed R (rows.filter chosen) (rows'.filter chosen') :=
  List.rel_filter (fun r s hrow => Bool.coe_iff_coe.mpr (agree r s hrow).symm) h

theorem familyRows (h : Table.Renamed R rows rows') (family : Uuid) :
    Table.Renamed R (rows.familyRows family) (rows'.familyRows family) :=
  h.filter fun r s hrow => by rw [hrow.family]

/-- An order that does not look at hashes sorts both tables in the same way. -/
theorem sorted {before : Row → Row → Bool} (h : Table.Renamed R rows rows')
    (blind : ∀ (r s : Row) hash hash',
      before { r with hash } { s with hash := hash' } = before r s) :
    Table.Renamed R (rows.sorted before) (rows'.sorted before) := by
  -- Both tables are read off the list of their pairs, which is sorted by its first halves.
  obtain ⟨hlength, hpairs⟩ := List.forall₂_iff_zip.mp h
  have hfirst : (rows.zip rows').map Prod.fst = rows := List.map_fst_zip (Nat.le_of_eq hlength)
  have hsecond : (rows.zip rows').map Prod.snd = rows' :=
    List.map_snd_zip (Nat.le_of_eq hlength.symm)
  have agree {p q : Row × Row} (hp : p ∈ rows.zip rows') (hq : q ∈ rows.zip rows') :
      before p.1 q.1 = before p.2 q.2 := by
    obtain ⟨hash, -, hp₂⟩ := hpairs hp
    obtain ⟨hash', -, hq₂⟩ := hpairs hq
    rw [hp₂, hq₂]
    exact (blind p.1 q.1 hash hash').symm
  let order (p q : Row × Row) : Bool := before p.1 q.1
  have hrows : ((rows.zip rows').mergeSort order).map Prod.fst = rows.sorted before := by
    rw [List.map_mergeSort (r := order) (s := before) (fun p _ q _ => rfl), hfirst]
    rfl
  have hrows' : ((rows.zip rows').mergeSort order).map Prod.snd = rows'.sorted before := by
    rw [List.map_mergeSort (r := order) (s := before) (fun p hp q hq => agree hp hq), hsecond]
    rfl
  rw [← hrows, ← hrows', Table.Renamed, List.forall₂_map_left_iff, List.forall₂_map_right_iff,
    List.forall₂_same]
  exact fun p hp => hpairs (List.mem_mergeSort.mp hp)

/-- Of the rows with one identifier the oldest entry is shown on both sides. -/
theorem shown (h : Table.Renamed R rows rows') :
    Table.Renamed R (Session.shown rows) (Session.shown rows') := by
  induction h with
  | nil => exact .nil
  | cons hrow _ ih =>
    exact .cons hrow (filter ih fun r s hrs => by rw [hrs.id, hrow.id])

theorem contains_eq (one : Relator.BiUnique R) (h : Table.Renamed R rows rows') {r s : Row}
    (hrow : Row.Renamed R r s) : rows'.contains s = rows.contains r := by
  rw [List.contains_eq_any_beq, List.contains_eq_any_beq]
  refine any_eq h fun r' s' hrow' => ?_
  rw [Bool.beq_eq_decide_eq, Bool.beq_eq_decide_eq]
  exact decide_eq_decide.mpr (hrow.eq_iff one hrow').symm

end Table.Renamed

/-! ## 2. What is said of errors -/

namespace Store

/-- **The server is discreet**: what it says when it refuses a statement with a text that it cannot
    keep is the same whatever it can keep of the other texts. -/
def Server.IsDiscreet (server : Server) : Prop :=
  ∀ (s : Statement) (texts texts' : List String),
    List.Forall₂ (fun a b => a = b ∨ Keepable a ∧ Keepable b) texts texts' →
      server.refusal unkeepableText none s texts = server.refusal unkeepableText none s texts'

namespace DatabaseError

/-- **Two errors of which the log and the caller hear the same**: they are one, or what is said of
    them is not listened to, because a constraint was broken. -/
inductive Alike : DatabaseError → DatabaseError → Prop
  | same (e : DatabaseError) : Alike e e
  | unheard {state : String} {constraint : Option String} (notice notice' : Notice)
      (broken : Violation.ofState state ∈ [.unique, .foreignKey, .check]) :
      Alike (.rejected state constraint notice) (.rejected state constraint notice')

variable {e e' : DatabaseError}

theorem Alike.failure (h : e.Alike e') : e'.failure = e.failure := by
  cases h <;> rfl

theorem Alike.insertFailure (h : e.Alike e') : e'.insertFailure = e.insertFailure := by
  cases h with
  | same => rfl
  | @unheard state constraint => cases constraint <;> rfl

/-- Invalid input is the caller's affair, and not logged. -/
theorem Alike.events (h : e.Alike e') : e'.events = e.events := by
  cases h with
  | same => rfl
  | @unheard state constraint notice notice' broken =>
    have silent (notice : Notice) : (rejected state constraint notice).events = [] := by
      obtain ⟨detail, failed⟩ :=
        failure_eq_invalidInput_iff.mpr ⟨state, constraint, notice, rfl, broken⟩
      simp only [DatabaseError.events, failed]
    rw [silent, silent]

theorem Alike.isLockConflict (h : e.Alike e') : e'.isLockConflict = e.isLockConflict := by
  cases h <;> rfl

/-- What is said of a lock conflict is heard. -/
theorem Alike.sentence (h : e.Alike e') (conflict : e.isLockConflict) :
    e'.notice.sentence = e.notice.sentence := by
  cases h with
  | same => rfl
  | @unheard state constraint notice notice' broken =>
    have locks : state = "40P01" ∨ state = "40001" := by
      simpa [DatabaseError.isLockConflict, isLockState] using conflict
    rcases locks with rfl | rfl <;> exact absurd broken (by decide)

end DatabaseError

/-- Two troubles of which the log and the caller hear the same. -/
inductive Trouble.Alike : Trouble → Trouble → Prop
  | database {e e' : DatabaseError} (h : e.Alike e') : Alike (.database e) (.database e')
  | aborted (cause : Abort) : Alike (.aborted cause) (.aborted cause)

theorem Trouble.alike_self (t : Trouble) : t.Alike t := by
  cases t with
  | database e => exact .database (.same e)
  | aborted cause => exact .aborted cause

end Store

/-! ## 3. Attempts -/

namespace Store.Attempt

variable {α β γ δ : Type} {server : Server}

/-- Two results of attempts on one wire: related values or troubles alike, and behind them one wire,
    to the server still. -/
inductive Match (server : Server) (post : α → β → Prop) :
    Except Trouble α × Wire → Except Trouble β × Wire → Prop
  | ok {a : α} {b : β} {wire : Wire} (here : wire.server = server) (h : post a b) :
      Match server post (.ok a, wire) (.ok b, wire)
  | error {t t' : Trouble} {wire : Wire} (here : wire.server = server) (h : t.Alike t') :
      Match server post (.error t, wire) (.error t', wire)

/-- **Two attempts that do the same on every wire to the server**, with values that are related. -/
def Parallels (server : Server) (post : α → β → Prop) (x : Attempt α) (y : Attempt β) : Prop :=
  ∀ wire : Wire, wire.server = server → Match server post (x wire) (y wire)

variable {post : α → β → Prop} {x : Attempt α} {y : Attempt β}

theorem parallels_pure {a : α} {b : β} (h : post a b) :
    Parallels server post (pure a : Attempt α) (pure b : Attempt β) :=
  fun _ here => .ok here h

theorem parallels_giveUp (t : Trouble) :
    Parallels server post (giveUp t : Attempt α) (giveUp t : Attempt β) :=
  fun _ here => .error here t.alike_self

/-- A refusal over a constraint is the same whatever texts the server has in its hands. -/
theorem parallels_refuse {v : Violation} (broken : v ∈ [.unique, .foreignKey, .check])
    (constraint : Option String) (s : Statement) (texts texts' : List String) :
    Parallels server post (refuse v.state constraint s texts : Attempt α)
      (refuse v.state constraint s texts' : Attempt β) :=
  fun _ here => .error here (.database (.unheard _ _ ((Violation.ofState_state v).symm ▸ broken)))

theorem parallels_self {x : Attempt α} (steady : x.Steady) : Parallels server Eq x x := by
  intro wire here
  have hserver := (steady wire).2
  rcases hx : x wire with ⟨t | a, wire'⟩
  · rw [hx] at hserver
    exact .error (hserver.trans here) t.alike_self
  · rw [hx] at hserver
    exact .ok (hserver.trans here) rfl

theorem parallels_bind {f : α → Attempt γ} {g : β → Attempt δ} {post' : γ → δ → Prop}
    (h : Parallels server post x y)
    (next : ∀ a b, post a b → Parallels server post' (f a) (g b)) :
    Parallels server post' (x >>= f) (y >>= g) := by
  intro wire here
  have hfirst := h wire here
  generalize hx : x wire = first at hfirst
  generalize hy : y wire = second at hfirst
  cases hfirst with
  | @ok a b wire' here' hab =>
    rw [bind_of_ok hx, bind_of_ok hy]
    exact next a b hab wire' here'
  | error here' alike =>
    rw [bind_of_error hx, bind_of_error hy]
    exact .error here' alike

/-- Two attempts that begin in the same way. -/
theorem parallels_after {x : Attempt α} {f : α → Attempt γ} {g : α → Attempt δ}
    {post' : γ → δ → Prop} (steady : x.Steady)
    (next : ∀ a, Parallels server post' (f a) (g a)) :
    Parallels server post' (x >>= f) (x >>= g) :=
  parallels_bind (parallels_self steady) fun a _ same => same ▸ next a

/-- **A hash is sent along without a trace**: a discreet server receives the statement or refuses it
    as it would with any other hash. -/
theorem parallels_send_hashOf (discreet : server.IsDiscreet) (s : Statement)
    (texts : List String) (a b : String) :
    Parallels server Eq (send s (texts ++ [hashOf a])) (send s (texts ++ [hashOf b])) := by
  have kept (token : String) : (hashOf token).toList.contains '\x00' = false := by
    simpa using nul_not_mem_hashOf token
  have received : Parallels server Eq (receive s (texts ++ [hashOf a]))
      (receive s (texts ++ [hashOf b])) := by
    simp only [receive, List.any_append, List.any_cons, List.any_nil, kept, Bool.or_false]
    split
    · rintro wire rfl
      have said := discreet s (texts ++ [hashOf a]) (texts ++ [hashOf b])
        (List.rel_append (List.forall₂_same.mpr fun _ _ => .inl rfl)
          (.cons (.inr ⟨nul_not_mem_hashOf a, nul_not_mem_hashOf b⟩) .nil))
      simp only [refuse, said]
      exact .error rfl (Trouble.alike_self _)
    · exact parallels_pure rfl
  refine parallels_after steady_openWire fun _ wire here => ?_
  simp only [sendOpen]
  split
  · split
    · exact .error here (Trouble.alike_self _)
    · exact received wire here
  · exact received wire here

end Store.Attempt

namespace DurableStore

open Store.Attempt

variable {α β : Type} {server : Server} {post : α → β → Prop}

/-- Two units of work that were tried equally often, with troubles alike or related results. -/
inductive Attempted.Matches (server : Server) (post : α → β → Prop) :
    Attempted α → Attempted β → Prop
  | ok {a : α} {b : β} (events : List Event) {wire : Wire} (here : wire.server = server)
      (h : post a b) :
      Matches server post { result := .ok a, events, wire } { result := .ok b, events, wire }
  | error {t t' : Trouble} (events : List Event) {wire : Wire} (here : wire.server = server)
      (h : t.Alike t') :
      Matches server post { result := .error t, events, wire } { result := .error t', events, wire }

theorem once_parallels {x : Attempt α} {y : Attempt β} (h : Parallels server post x y)
    {wire : Wire} (here : wire.server = server) :
    Attempted.Matches server post (once x wire) (once y wire) := by
  have hend := h wire here
  unfold once
  generalize x wire = first at hend
  generalize y wire = second at hend
  cases hend with
  | ok here hab => exact .ok [] here hab
  | error here alike => exact .error [] here alike

/-- What is tried again on one side is tried again on the other. -/
theorem repeating_parallels (work : LockedWork) {x : Attempt α} {y : Attempt β}
    (h : Parallels server post x y) (left number : Nat) {wire : Wire}
    (here : wire.server = server) :
    Attempted.Matches server post (repeating work x left number wire)
      (repeating work y left number wire) := by
  induction left generalizing number wire with
  | zero => exact once_parallels h here
  | succ left ih =>
    have hend := h wire here
    generalize hx : x wire = first at hend
    generalize hy : y wire = second at hend
    cases hend with
    | ok here' hab =>
      simp only [repeating, hx, hy]
      exact .ok [] here' hab
    | @error _ _ wire' here' alike =>
      cases alike with
      | aborted cause =>
        simp only [repeating, hx, hy]
        exact .error [] here' (.aborted cause)
      | database alike =>
        simp only [repeating, hx, hy, alike.isLockConflict]
        split
        · next conflict =>
          rw [alike.sentence conflict]
          have hrest := ih (number + 1) here'
          generalize repeating work x left (number + 1) wire' = first at hrest
          generalize repeating work y left (number + 1) wire' = second at hrest
          cases hrest with
          | ok events here hab => exact .ok _ here hab
          | error events here alike => exact .error _ here alike
        · exact .error [] here' (.database alike)

theorem retried_parallels (work : LockedWork) {x : Attempt α} {y : Attempt β}
    (h : Parallels server post x y) {wire : Wire} (here : wire.server = server) :
    Attempted.Matches server post (retried work x wire) (retried work y wire) :=
  repeating_parallels work h _ _ here

end DurableStore

/-! ## 4. Answers -/

/-- Two answers to the presentations of corresponding hashes. -/
inductive ConsumeOutcome.Renamed (R : String → String → Prop) :
    ConsumeOutcome → ConsumeOutcome → Prop
  | unknown : Renamed R .unknown .unknown
  | rejected (reason : Refusal) : Renamed R (.rejected reason) (.rejected reason)
  | accepted {r s : Row} (h : Row.Renamed R r s) (kind : ConsumeKind) :
      Renamed R (.accepted r kind) (.accepted s kind)
  | reused {r s : Row} (h : Row.Renamed R r s) (revokedRows : Nat) :
      Renamed R (.reused r revokedRows) (.reused s revokedRows)

/-- **Two calls that differ in nothing but a hash**, and how their answers are related. The hashes
    are those of two tokens. -/
inductive StoreCall.Renamed (R : String → String → Prop) :
    (c d : StoreCall) → (c.Answer → d.Answer → Prop) → Prop
  | insert (token : NewToken) {a b : String} (h : R (hashOf a) (hashOf b)) :
      Renamed R (.insert { token with hash := hashOf a }) (.insert { token with hash := hashOf b })
        (Row.Renamed R)
  | consume {a b : String} (h : R (hashOf a) (hashOf b)) (clock : Clock) (policy : Policy) :
      Renamed R (.consume (hashOf a) clock policy) (.consume (hashOf b) clock policy)
        (ConsumeOutcome.Renamed R)
  | getByHash {a b : String} (h : R (hashOf a) (hashOf b)) :
      Renamed R (.getByHash (hashOf a)) (.getByHash (hashOf b)) (Option.Rel (Row.Renamed R))
  | revokeFamily (family : Uuid) (now : Instant) :
      Renamed R (.revokeFamily family now) (.revokeFamily family now) Eq
  | revokeSubject (subject : String) (now : Instant) :
      Renamed R (.revokeSubject subject now) (.revokeSubject subject now) Eq
  | link (id successor : Uuid) : Renamed R (.link id successor) (.link id successor) Eq
  | listFamily (family : Uuid) :
      Renamed R (.listFamily family) (.listFamily family) (Table.Renamed R)

/-! ## 5. Attempts of the durable store -/

namespace DurableStore

open Store.Attempt

variable {server : Server} {rows rows' : Table} {a b : String}

/-- What an attempt of the one store comes to, beside that of the other: the values are related,
    and the tables are the same but for the hashes. -/
abbrev Result {α β : Type} (R : String → String → Prop) (answers : α → β → Prop) (p : α × Table)
    (q : β × Table) : Prop :=
  answers p.1 q.1 ∧ Table.Renamed R p.2 q.2

theorem insertAttempt_parallels (discreet : server.IsDiscreet) (one : Relator.BiUnique R)
    (h : Table.Renamed R rows rows') (token : NewToken) (hhash : R (hashOf a) (hashOf b)) :
    Parallels server (Result R (Row.Renamed R)) (insertAttempt rows { token with hash := hashOf a })
      (insertAttempt rows' { token with hash := hashOf b }) := by
  have hrow : Row.Renamed R { token with hash := hashOf a : NewToken }.row.stored
      { token with hash := hashOf b : NewToken }.row.stored :=
    Row.Renamed.stored ⟨hashOf b, hhash, rfl⟩
  refine parallels_bind (parallels_send_hashOf discreet .insert [token.subject] a b)
    fun _ _ _ => ?_
  rw [if_neg (not_not_intro (length_hashOf a)), if_neg (not_not_intro (length_hashOf b)),
    h.hasId_eq, h.hasHash_eq one hhash]
  split
  · exact parallels_refuse (by decide) _ _ _ _
  · split
    · exact parallels_refuse (by decide) _ _ _ _
    · exact parallels_pure ⟨hrow, List.rel_append h (.cons hrow .nil)⟩

theorem consumeAttempt_parallels (discreet : server.IsDiscreet) (one : Relator.BiUnique R)
    (h : Table.Renamed R rows rows') (hhash : R (hashOf a) (hashOf b)) (clock : Clock)
    (policy : Policy) :
    Parallels server (Result R (ConsumeOutcome.Renamed R))
      (consumeAttempt rows (hashOf a) clock policy) (consumeAttempt rows' (hashOf b) clock policy) := by
  have hfound := h.byHash? one hhash
  have sent (s : Statement) : (send s).Steady := steady_send s []
  refine parallels_after (sent _) fun _ =>
    parallels_bind (parallels_send_hashOf discreet .select [] a b) fun _ _ _ => ?_
  generalize rows.byHash? (hashOf a) = found at hfound
  generalize rows'.byHash? (hashOf b) = found' at hfound
  cases hfound with
  | none => exact parallels_after (sent _) fun _ => parallels_pure ⟨.unknown, h⟩
  | @some r s hrow =>
    refine parallels_after (steady_now clock) fun now => ?_
    rw [hrow.judge]
    cases r.judge now policy with
    | refuse reason => exact parallels_after (sent _) fun _ => parallels_pure ⟨.rejected reason, h⟩
    | firstUse c g =>
      have hchange : Table.Renamed R
          (rows.changeAll (fun t => t.id = r.id) fun t => t.stamp c.stored g.stored)
          (rows'.changeAll (fun t => t.id = s.id) fun t => t.stamp c.stored g.stored) :=
        h.changeAll (fun t u htu => by rw [htu.id, hrow.id]) fun _ _ htu => htu.stamp _ _
      exact parallels_after (sent _) fun _ => parallels_after (sent _) fun _ =>
        parallels_pure ⟨.accepted (hrow.stamp c g) .first, hchange⟩
    | withinGrace =>
      exact parallels_after (sent _) fun _ => parallels_pure ⟨.accepted hrow .grace, h⟩
    | reuse =>
      have agree := hrow.sibling_agrees
      refine parallels_after (sent _) fun _ => parallels_after (sent _) fun _ =>
        parallels_pure ⟨?_, ?_⟩
      · rw [h.sweepCount_eq agree]
        exact .reused hrow _
      · exact h.sweep agree now.stored
    | overflow => exact parallels_giveUp _

theorem revokeAttempt_parallels (h : Table.Renamed R rows rows') (texts : List String)
    {chosen : Row → Bool} (agree : ∀ r s, Row.Renamed R r s → chosen s = chosen r)
    (now : Instant) :
    Parallels server (Result R Eq) (revokeAttempt rows texts chosen now)
      (revokeAttempt rows' texts chosen now) :=
  parallels_after (steady_send _ _) fun _ =>
    parallels_pure ⟨(h.sweepCount_eq agree).symm, h.sweep agree now.stored⟩

theorem linkAttempt_parallels (h : Table.Renamed R rows rows') (id successor : Uuid) :
    Parallels server (Result R Eq) (linkAttempt rows id successor)
      (linkAttempt rows' id successor) := by
  have agree (r s : Row) (hrow : Row.Renamed R r s) : s.unlinked id = r.unlinked id :=
    hrow.unlinked_eq id
  have hany : rows'.any (Row.unlinked id) = rows.any (Row.unlinked id) := h.any_eq agree
  refine parallels_after (steady_send _ _) fun _ => ?_
  change Parallels server _ (if rows.any (Row.unlinked id) then _ else _ : Attempt (Bool × Table))
    (if rows'.any (Row.unlinked id) then _ else _ : Attempt (Bool × Table))
  rw [hany, h.hasId_eq]
  split
  · split
    · exact parallels_pure ⟨rfl, h.changeAll agree fun _ _ hrow => hrow.link successor⟩
    · exact parallels_refuse (by decide) _ _ _ _
  · exact parallels_pure ⟨rfl, h⟩

end DurableStore

/-! ## 6. Stores -/

/-- **Two stores of one kind that differ in nothing but the hashes of their rows**: the same
    collisions are due and the lock is in the same state, or the same faults wait on the wire to one
    server. -/
inductive AnyStore.Renamed (R : String → String → Prop) : AnyStore → AnyStore → Prop
  | memory {rows rows' : Table} (forcedCollisions : Nat) (poisoned : Bool)
      (h : Table.Renamed R rows rows') :
      Renamed R (.memory { rows, forcedCollisions, poisoned })
        (.memory { rows := rows', forcedCollisions, poisoned })
  | durable {rows rows' : Table} (wire : Wire) (h : Table.Renamed R rows rows') :
      Renamed R (.durable { rows, wire }) (.durable { rows := rows', wire })

/-- A call that two stores answered alike, and that left stores that differ in nothing but the
    hashes of their rows. -/
structure Performed.Renamed {α β : Type} (R : String → String → Prop) (answers : α → β → Prop)
    (p : Performed AnyStore α) (q : Performed AnyStore β) : Prop where
  outcome : p.outcome.Agrees answers q.outcome
  events : q.events = p.events
  stores : AnyStore.Renamed R p.store q.store

/-- The performance of a durable store as one of a store of either kind. -/
abbrev Performed.ofDurable {α : Type} (p : Performed DurableStore α) : Performed AnyStore α :=
  { outcome := p.outcome, events := p.events, store := .durable p.store }

/-- The performance of a store in memory as one of a store of either kind. -/
abbrev Performed.ofMemory {α : Type} (p : Performed MemoryStore α) : Performed AnyStore α :=
  { outcome := p.outcome, events := p.events, store := .memory p.store }

namespace DurableStore

variable {server : Server} {rows rows' : Table} {α β : Type} {answers : α → β → Prop}

/-- Two matching units of work are settled alike. -/
theorem settle_renamed (h : Table.Renamed R rows rows') (wire : Wire)
    {x : Attempted (α × Table)} {y : Attempted (β × Table)}
    (hxy : Attempted.Matches server (Result R answers) x y) {failure : DatabaseError → Failure}
    (told : ∀ e e' : DatabaseError, e.Alike e' → failure e' = failure e) :
    Performed.Renamed R answers (.ofDurable (settle { rows, wire } x failure))
      (.ofDurable (settle { rows := rows', wire } y failure)) := by
  cases hxy with
  | ok events _ hab => exact ⟨.done hab.1, rfl, .durable _ hab.2⟩
  | error events _ alike =>
    cases alike with
    | database alike =>
      refine ⟨?_, congrArg (events ++ ·) alike.events, .durable _ h⟩
      simp only [settle, told _ _ alike]
      exact .failed _
    | aborted cause => exact ⟨.aborted cause, rfl, .durable _ h⟩

theorem read_renamed (h : Table.Renamed R rows rows') (wire : Wire) {texts texts' : List String}
    (sent : Attempt.Parallels wire.server Eq (Attempt.send .select texts)
      (Attempt.send .select texts'))
    {a : α} {b : β} (hab : answers a b) :
    Performed.Renamed R answers (.ofDurable (read { rows, wire } texts a))
      (.ofDurable (read { rows := rows', wire } texts' b)) :=
  settle_renamed h wire
    (once_parallels
      (Attempt.parallels_bind sent fun _ _ _ => Attempt.parallels_pure ⟨hab, h⟩) rfl)
    fun _ _ alike => alike.failure

/-- The lineage is ordered by creations and identifiers. -/
theorem lineage_renamed (h : Table.Renamed R rows rows') (family : Uuid) :
    Table.Renamed R (lineage rows family) (lineage rows' family) :=
  (h.familyRows family).sorted fun _ _ _ _ => rfl

theorem perform_renamed (one : Relator.BiUnique R) (h : Table.Renamed R rows rows') {wire : Wire}
    (discreet : wire.server.IsDiscreet) {c d : StoreCall} {answers : c.Answer → d.Answer → Prop}
    (hcall : c.Renamed R d answers) :
    Performed.Renamed R answers (.ofDurable (perform { rows, wire } c))
      (.ofDurable (perform { rows := rows', wire } d)) := by
  have told (e e' : DatabaseError) (alike : e.Alike e') : e'.failure = e.failure := alike.failure
  cases hcall with
  | insert token hhash =>
    exact settle_renamed h wire
      (once_parallels (insertAttempt_parallels discreet one h token hhash) rfl)
      fun _ _ alike => alike.insertFailure
  | consume hhash clock policy =>
    exact settle_renamed h wire
      (retried_parallels .consume (consumeAttempt_parallels discreet one h hhash clock policy) rfl)
      told
  | getByHash hhash =>
    exact read_renamed h wire (Attempt.parallels_send_hashOf discreet .select [] _ _)
      (h.byHash? one hhash)
  | revokeFamily family now =>
    exact settle_renamed h wire
      (retried_parallels .revokeFamily
        (revokeAttempt_parallels h [] (fun r s hrow => by rw [hrow.family]) now) rfl) told
  | revokeSubject subject now =>
    exact settle_renamed h wire
      (retried_parallels .revokeSubject
        (revokeAttempt_parallels h [subject] (fun r s hrow => by rw [hrow.subject]) now) rfl) told
  | link id successor =>
    exact settle_renamed h wire (once_parallels (linkAttempt_parallels h id successor) rfl) told
  | listFamily family =>
    exact read_renamed h wire (Attempt.parallels_self (Attempt.steady_send _ _))
      (lineage_renamed h family)

end DurableStore

namespace MemoryStore

variable {rows rows' : Table} {hash hash' : String} (due : Nat) (poisoned : Bool)

theorem add_renamed (one : Relator.BiUnique R) (h : Table.Renamed R rows rows') (token : NewToken)
    (hhash : R hash hash') :
    Performed.Renamed R (Row.Renamed R) (.ofMemory (add ⟨rows, due, poisoned⟩ { token with hash }))
      (.ofMemory (add ⟨rows', due, poisoned⟩ { token with hash := hash' })) := by
  have hrow : Row.Renamed R { token with hash : NewToken }.row
      { token with hash := hash' : NewToken }.row :=
    ⟨hash', hhash, rfl⟩
  simp only [add, h.hasHash_eq one hhash]
  split
  · exact ⟨.failed _, rfl, .memory due poisoned h⟩
  · exact ⟨.done hrow, rfl, .memory due poisoned (List.rel_append h (.cons hrow .nil))⟩

theorem consume_renamed (one : Relator.BiUnique R) (h : Table.Renamed R rows rows')
    (hhash : R hash hash') (clock : Clock) (policy : Policy) :
    Performed.Renamed R (ConsumeOutcome.Renamed R)
      (.ofMemory (consume ⟨rows, due, poisoned⟩ hash clock policy))
      (.ofMemory (consume ⟨rows', due, poisoned⟩ hash' clock policy)) := by
  unfold consume
  cases clock.now with
  | error cause => exact ⟨.aborted cause, rfl, .memory due poisoned h⟩
  | ok now =>
    have hfound := h.byHash? one hhash
    simp only [consumeAt]
    generalize rows.byHash? hash = found at hfound
    generalize rows'.byHash? hash' = found' at hfound
    cases hfound with
    | none => exact ⟨.done .unknown, rfl, .memory due poisoned h⟩
    | @some r s hrow =>
      simp only [hrow.judge]
      cases r.judge now policy with
      | refuse reason => exact ⟨.done (.rejected reason), rfl, .memory due poisoned h⟩
      | firstUse c g =>
        exact ⟨.done (.accepted (hrow.stamp c g) .first), rfl,
          .memory due poisoned (h.changeFirst (Table.Renamed.hash_agrees one hhash)
            fun _ _ htu => htu.stamp c g)⟩
      | withinGrace => exact ⟨.done (.accepted hrow .grace), rfl, .memory due poisoned h⟩
      | reuse =>
        have agree := hrow.sibling_agrees
        refine ⟨.done ?_, rfl, .memory due poisoned (h.sweep agree now)⟩
        rw [h.sweepCount_eq agree]
        exact .reused hrow _
      | overflow => exact ⟨.aborted .overflow, rfl, .memory due poisoned h⟩

theorem revoke_renamed (h : Table.Renamed R rows rows') {chosen : Row → Bool}
    (agree : ∀ r s, Row.Renamed R r s → chosen s = chosen r) (now : Instant) :
    Performed.Renamed R Eq (.ofMemory (revoke ⟨rows, due, poisoned⟩ chosen now))
      (.ofMemory (revoke ⟨rows', due, poisoned⟩ chosen now)) :=
  ⟨.done (h.sweepCount_eq agree).symm, rfl, .memory due poisoned (h.sweep agree now)⟩

/-- The lineage is ordered by creations. -/
theorem lineage_renamed (h : Table.Renamed R rows rows') (family : Uuid) :
    Table.Renamed R (lineage ⟨rows, due, poisoned⟩ family)
      (lineage ⟨rows', due, poisoned⟩ family) :=
  (h.familyRows family).sorted fun _ _ _ _ => rfl

/-- What is done behind the lock. -/
theorem work_renamed (one : Relator.BiUnique R) (h : Table.Renamed R rows rows')
    {c d : StoreCall} {answers : c.Answer → d.Answer → Prop} (hcall : c.Renamed R d answers) :
    Performed.Renamed R answers (.ofMemory (work ⟨rows, due, poisoned⟩ c))
      (.ofMemory (work ⟨rows', due, poisoned⟩ d)) := by
  cases hcall with
  | insert token hhash => exact add_renamed due poisoned one h token hhash
  | consume hhash clock policy => exact consume_renamed due poisoned one h hhash clock policy
  | getByHash hhash =>
    unfold work
    exact ⟨.done (h.byHash? one hhash), rfl, .memory due poisoned h⟩
  | revokeFamily family now =>
    exact revoke_renamed due poisoned h (fun r s hrow => by rw [hrow.family]) now
  | revokeSubject subject now =>
    exact revoke_renamed due poisoned h (fun r s hrow => by rw [hrow.subject]) now
  | link id successor =>
    have agree (r s : Row) (hrow : Row.Renamed R r s) : s.unlinked id = r.unlinked id :=
      hrow.unlinked_eq id
    exact ⟨.done (h.any_eq agree).symm, rfl,
      .memory due poisoned (h.changeFirst agree fun _ _ hrow => hrow.link successor)⟩
  | listFamily family =>
    exact ⟨.done (lineage_renamed due poisoned h family), rfl, .memory due poisoned h⟩

/-- The lock is in the same state before and after. -/
theorem locked_renamed {α β : Type} {answers : α → β → Prop} (h : Table.Renamed R rows rows')
    {x : Performed MemoryStore α} {y : Performed MemoryStore β}
    (hwork : Performed.Renamed R answers (.ofMemory x) (.ofMemory y)) :
    Performed.Renamed R answers (.ofMemory (locked ⟨rows, due, poisoned⟩ x))
      (.ofMemory (locked ⟨rows', due, poisoned⟩ y)) := by
  cases poisoned with
  | true => exact ⟨.aborted .poisoned, rfl, .memory due true h⟩
  | false =>
    obtain ⟨outcome, events, store⟩ := x
    obtain ⟨outcome', events', store'⟩ := y
    obtain ⟨hend, hevents, hstores⟩ := hwork
    have hbroken : outcome'.isAborted = outcome.isAborted := hend.isAborted_eq
    rw [locked_of_sound rfl, locked_of_sound rfl]
    refine ⟨hend, hevents, ?_⟩
    simp only [hbroken]
    cases hstores with
    | memory due poisoned hrows => exact .memory due _ hrows

theorem perform_renamed (one : Relator.BiUnique R) (h : Table.Renamed R rows rows')
    {c d : StoreCall} {answers : c.Answer → d.Answer → Prop} (hcall : c.Renamed R d answers) :
    Performed.Renamed R answers (.ofMemory (perform ⟨rows, due, poisoned⟩ c))
      (.ofMemory (perform ⟨rows', due, poisoned⟩ d)) := by
  have hcollides : collides ⟨rows', due, poisoned⟩ d = collides ⟨rows, due, poisoned⟩ c := by
    -- Comparing the calls as they stand would come to comparing two digests.
    cases hcall <;> simp only [collides]
  unfold perform
  rw [hcollides]
  split
  · exact ⟨.failed _, rfl, .memory (due - 1) poisoned h⟩
  · exact locked_renamed due poisoned h (work_renamed due poisoned one h hcall)

theorem isEmpty_renamed (h : Table.Renamed R rows rows') :
    isEmpty ⟨rows', due, poisoned⟩ = isEmpty ⟨rows, due, poisoned⟩ := by
  unfold isEmpty locked
  rw [h.isEmpty_eq]
  split <;> rfl

end MemoryStore

namespace AnyStore.Renamed

variable {s t : AnyStore}

theorem rows (h : s.Renamed R t) : Table.Renamed R s.rows t.rows := by
  cases h with
  | memory _ _ h => exact h
  | durable _ h => exact h

theorem server (h : s.Renamed R t) : t.server = s.server := by
  cases h <;> rfl

theorem withFaults (h : s.Renamed R t) (faults : List Fault) :
    (s.withFaults faults).Renamed R (t.withFaults faults) := by
  cases h with
  | memory due poisoned h => exact .memory due poisoned h
  | durable wire h => exact .durable _ h

theorem failInserts (h : s.Renamed R t) (count : Nat) :
    (s.failInserts count).Renamed R (t.failInserts count) := by
  cases h with
  | memory _ poisoned h => exact .memory count poisoned h
  | durable wire h => exact .durable wire h

theorem isEmpty_eq (h : s.Renamed R t) : t.isEmpty = s.isEmpty := by
  cases h with
  | memory due poisoned h => exact MemoryStore.isEmpty_renamed due poisoned h
  | durable wire h => exact congrArg Outcome.done h.isEmpty_eq

/-- **Renamed stores before a discreet server answer a call alike**, and stay renamed. -/
theorem perform (one : Relator.BiUnique R) (h : s.Renamed R t) (discreet : s.server.IsDiscreet)
    {c d : StoreCall} {answers : c.Answer → d.Answer → Prop} (hcall : c.Renamed R d answers) :
    Performed.Renamed R answers (s.perform c) (t.perform d) := by
  cases h with
  | memory due poisoned h => exact MemoryStore.perform_renamed due poisoned one h hcall
  | durable wire h => exact DurableStore.perform_renamed one h discreet hcall

end AnyStore.Renamed

end TokenRotation
