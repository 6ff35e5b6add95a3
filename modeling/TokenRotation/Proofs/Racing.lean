import TokenRotation.Proofs.Lifecycle
import TokenRotation.Proofs.Phases

/-!
# Racing duplicates

A client whose request was repeated on its way rotates one token several times at once. The
rotations take the steps of the store in any order. None of them is refused: the first to present
the token stamps its row, the others come inside the grace window that it opened, each adds a
successor of its own, and the first to link decides which of them the row is succeeded by.

* `Race`, `Race.IsFair` -- the rotations, and what is asked of them and of the table;
* `Race.Underway` -- what the table holds at any moment of the race;
* `Race.Underway.step` -- every request is answered well, and the race goes on;
* `Pool.racing` -- **all rotations come through**, under every schedule.
-/

namespace TokenRotation

open Store Program Session

/-! ## 1. What is read off the deeds -/

namespace Deed

/-- In what way a token was accepted. -/
def kind? (d : Deed) : Option ConsumeKind := d.accepted?.map Prod.snd

/-- Whether a successor was linked, or another one before it. -/
def linking? : Deed → Option Bool
  | ⟨_, _, .link .., .done linked, _⟩ => some linked
  | _ => none

/-- What is read off the deeds, each with the number of its operation. -/
def signed {β : Type} (read : Deed → Option β) (deeds : List Deed) : List (Nat × β) :=
  deeds.filterMap fun d => (read d).map fun b => (d.actor, b)

theorem signed_concat {β : Type} (read : Deed → Option β) (deeds : List Deed) (d : Deed) :
    signed read (deeds ++ [d]) = signed read deeds ++ ((read d).map (d.actor, ·)).toList := by
  rw [signed, List.filterMap_append]
  cases h : read d <;> simp [signed, h]

/-- A row that the deed adds has a hash and an identifier that no row has. -/
def IsFresh (d : Deed) : Prop :=
  match d.call with
  | .insert token => d.before.hasHash token.hash = false ∧ d.before.hasId token.id = false
  | _ => True

instance (d : Deed) : Decidable d.IsFresh := by
  unfold IsFresh
  split <;> infer_instance

end Deed

/-- The entries of each operation are as many as it has done of them: one from that lap on, and none
    before. -/
def Tallied {β : Type} (entries : List (Nat × β)) (phases : Nat → Phase) (lap : Nat) : Prop :=
  ∀ i, (entries.map Prod.fst).count i = if lap ≤ (phases i).laps then 1 else 0

namespace Tallied

variable {β : Type} {entries : List (Nat × β)} {phases : Nat → Phase} {lap i : Nat} {next : Phase}

/-- An entry that was due. -/
theorem concat (h : Tallied entries phases lap) (due : (phases i).laps < lap)
    (done : lap ≤ next.laps) (b : β) :
    Tallied (entries ++ [(i, b)]) (Function.update phases i next) lap := by
  intro j
  rw [List.map_append, List.count_append, h j, List.map_singleton, List.count_singleton]
  by_cases hji : j = i
  · subst hji
    simp [Function.update_self, done, due]
  · simp [Function.update_of_ne hji, Ne.symm hji]

/-- A phase of the same side of the lap. -/
theorem update (h : Tallied entries phases lap)
    (same : lap ≤ next.laps ↔ lap ≤ (phases i).laps) :
    Tallied entries (Function.update phases i next) lap := by
  intro j
  rw [h j]
  by_cases hji : j = i
  · subst hji
    simp only [Function.update_self, same]
  · rw [Function.update_of_ne hji]

/-- When everyone who takes part has done the lap, each has one entry. -/
theorem perm_range (h : Tallied entries phases lap) {n : Nat}
    (done : ∀ i < n, lap ≤ (phases i).laps)
    (waiting : ∀ i, n ≤ i → (phases i).laps < lap) :
    (entries.map Prod.fst).Perm (List.range n) := by
  rw [List.perm_iff_count]
  intro i
  rw [h i]
  by_cases hi : i < n
  · have hmem : i ∈ List.range n := List.mem_range.mpr hi
    rw [if_pos (done i hi), List.count_eq_one_of_mem List.nodup_range hmem]
  · have hmem : i ∉ List.range n := fun hmem => hi (List.mem_range.mp hmem)
    have hlate := waiting i (by omega)
    rw [if_neg (by omega), List.count_eq_zero_of_not_mem hmem]

theorem not_mem (h : Tallied entries phases lap) (before : (phases i).laps < lap) {b : β} :
    (i, b) ∉ entries := by
  intro hmem
  have hcount := List.count_pos_iff.mpr (List.mem_map_of_mem (f := Prod.fst) hmem)
  rw [h i, if_neg (by omega)] at hcount
  omega

end Tallied

/-- Entries of one kind are their operations, each with that kind. -/
theorem eq_map_of_forall {β : Type} {entries : List (Nat × β)} {b : β}
    (h : ∀ entry ∈ entries, entry.2 = b) : entries = (entries.map Prod.fst).map (·, b) := by
  rw [List.map_map]
  refine (List.map_id' entries).symm.trans (List.map_congr_left fun entry hentry => ?_)
  exact Prod.ext rfl (h entry hentry)

/-- A row that evolved without being revoked differs in three cells at most. -/
theorem Row.Evolves.eq_of_revokedAt {r s : Row} (h : r.Evolves s)
    (same : s.revokedAt = r.revokedAt) :
    s = { r with
      consumedAt := s.consumedAt
      graceExpiresAt := s.graceExpiresAt
      replacedBy := s.replacedBy } := by
  obtain ⟨hid, hsubject, hfamily, hhash, hcreatedAt, hexpiresAt, -, -, -⟩ := h
  rw [← hid, ← hsubject, ← hfamily, ← hhash, ← hcreatedAt, ← hexpiresAt, ← same]

/-! ## 2. Races -/

/-- Rotations of one token, each by an instant of its own, on a table with its row. -/
structure Race where
  settings : Settings
  token : String
  instants : List Instant
  front : Table
  row : Row
  back : Table

namespace Race

/-- The table at the beginning. -/
def rows (race : Race) : Table := race.front ++ race.row :: race.back

/-- The rotations. -/
def jobs (race : Race) : List (Work × Clock) :=
  race.instants.map fun t => (.rotate race.token, .fixed t)

/-- The call that presents the token at an instant. -/
def presentation (race : Race) (t : Instant) : StoreCall :=
  .consume (hashOf race.token) (.fixed t) race.settings.policy

/-- **What is asked of the race**: the row was never consumed, linked or revoked; it is the first of
    the hash of the token, no other row without a successor has its identifier, and in a database
    none at all. The instants lie inside its lifetime, at most a grace window apart, and the
    calendar holds the dates that follow from them. -/
structure IsFair (race : Race) (k : StoreKind) : Prop where
  hash : race.row.hash = hashOf race.token
  first : ∀ r ∈ race.front, r.hash ≠ race.row.hash
  alone : ∀ r ∈ race.front ++ race.back, r.unlinked race.row.id = false
  keyed : k = .durable → ∀ r ∈ race.front ++ race.back, r.id ≠ race.row.id
  named : Text.isBlank race.row.subject = false
  kept : k = .durable → Keepable race.row.subject
  unconsumed : race.row.consumedAt = none
  unlinked : race.row.replacedBy = none
  live : race.row.revokedAt = none
  unexpired : ∀ t ∈ race.instants, t ≤ race.row.expiresAt
  whole : ∀ t ∈ race.instants, t.stored = t
  close : race.instants.Pairwise fun t u =>
    u.nanos - t.nanos ≤ race.settings.policy.grace.nanos ∧
      t.nanos - u.nanos ≤ race.settings.policy.grace.nanos
  expires : ∀ t ∈ race.instants, (race.settings.policy.expiresAt? t).isSome
  closes : ∀ t ∈ race.instants, (race.settings.policy.graceExpiresAt? t).isSome

instance (race : Race) (k : StoreKind) : Decidable (race.IsFair k) :=
  decidable_of_iff (race.row.hash = hashOf race.token ∧
    (∀ r ∈ race.front, r.hash ≠ race.row.hash) ∧
    (∀ r ∈ race.front ++ race.back, r.unlinked race.row.id = false) ∧
    (k = .durable → ∀ r ∈ race.front ++ race.back, r.id ≠ race.row.id) ∧
    Text.isBlank race.row.subject = false ∧ (k = .durable → Keepable race.row.subject) ∧
    race.row.consumedAt = none ∧ race.row.replacedBy = none ∧ race.row.revokedAt = none ∧
    (∀ t ∈ race.instants, t ≤ race.row.expiresAt) ∧ (∀ t ∈ race.instants, t.stored = t) ∧
    (race.instants.Pairwise fun t u =>
      u.nanos - t.nanos ≤ race.settings.policy.grace.nanos ∧
        t.nanos - u.nanos ≤ race.settings.policy.grace.nanos) ∧
    (∀ t ∈ race.instants, (race.settings.policy.expiresAt? t).isSome) ∧
    ∀ t ∈ race.instants, (race.settings.policy.graceExpiresAt? t).isSome)
    ⟨fun ⟨a, b, c, d, e, f, g, h, i, j, l, m, n, o⟩ => ⟨a, b, c, d, e, f, g, h, i, j, l, m, n, o⟩,
      fun ⟨a, b, c, d, e, f, g, h, i, j, l, m, n, o⟩ => ⟨a, b, c, d, e, f, g, h, i, j, l, m, n, o⟩⟩

theorem IsFair.le_deadline {race : Race} {k : StoreKind} (fair : race.IsFair k) {i j : Nat}
    {t u g : Instant} (ht : race.instants[i]? = some t) (hu : race.instants[j]? = some u)
    (apart : i ≠ j) (closes : race.settings.policy.graceExpiresAt? u = some g) :
    t ≤ k.keep g := by
  obtain ⟨hi, rfl⟩ := List.getElem?_eq_some_iff.mp ht
  obtain ⟨hj, rfl⟩ := List.getElem?_eq_some_iff.mp hu
  obtain ⟨rfl, -⟩ := Instant.add?_eq_some_iff.mp closes
  have hclose := List.pairwise_iff_getElem.mp fair.close
  have le : race.instants[i] ≤
      ⟨race.instants[j].nanos + race.settings.policy.grace.nanos⟩ := by
    change race.instants[i].nanos ≤ race.instants[j].nanos + race.settings.policy.grace.nanos
    rcases Nat.lt_or_gt_of_ne apart with hlt | hlt
    · have := hclose i j hi hj hlt
      omega
    · have := hclose j i hj hi hlt
      omega
  cases k with
  | memory => exact le
  | durable =>
    rw [← fair.whole _ (List.getElem_mem hi)]
    exact Instant.stored_mono le

/-- The stamps of the row as the presentations so far leave them: the first one sets them, the
    others find them there. -/
def Consumed (race : Race) (k : StoreKind) :
    List (Nat × ConsumeKind) → (consumedAt graceExpiresAt : Option Instant) → Prop
  | [], consumedAt, _ => consumedAt = none
  | (i, kind) :: others, consumedAt, graceExpiresAt =>
    kind = .first ∧ (∀ other ∈ others, other.2 = .grace) ∧
      ∃ t g, race.instants[i]? = some t ∧ race.settings.policy.graceExpiresAt? t = some g ∧
        consumedAt = some (k.keep t) ∧ graceExpiresAt = some (k.keep g)

/-- The first of the presentations stamped the row, and the others were inside its grace window. -/
theorem Consumed.exists_first {race : Race} {k : StoreKind} {entries : List (Nat × ConsumeKind)}
    {consumedAt graceExpiresAt : Option Instant}
    (h : race.Consumed k entries consumedAt graceExpiresAt) (someone : entries ≠ []) :
    ∃ (first : Nat) (others : List Nat) (t g : Instant),
      entries = (first, .first) :: others.map (·, .grace) ∧
        race.instants[first]? = some t ∧ race.settings.policy.graceExpiresAt? t = some g ∧
          consumedAt = some (k.keep t) ∧ graceExpiresAt = some (k.keep g) := by
  cases entries with
  | nil => exact absurd rfl someone
  | cons entry others =>
    obtain ⟨first, kind⟩ := entry
    obtain ⟨rfl, hothers, t, g, ht, hg, hstamps⟩ := h
    exact ⟨first, others.map Prod.fst, t, g, by rw [← eq_map_of_forall hothers], ht, hg, hstamps⟩

/-- **A presentation is accepted** by a row that was consumed by others at most. -/
theorem IsFair.accepted {race : Race} {k : StoreKind} (fair : race.IsFair k) {i : Nat} {t : Instant}
    (ht : race.instants[i]? = some t) {current : Row} {added : Table}
    {entries : List (Nat × ConsumeKind)} (evolves : race.row.Evolves current)
    (live : current.revokedAt = none)
    (consumed : race.Consumed k entries current.consumedAt current.graceExpiresAt)
    (absent : ∀ entry ∈ entries, entry.1 ≠ i) (foreign : ∀ r ∈ added, r.id ≠ race.row.id) :
    ∃ seen kind current', k.obey (race.front ++ current :: (race.back ++ added)) current t
        (current.judge t race.settings.policy) =
          some (.accepted seen kind, race.front ++ current' :: (race.back ++ added)) ∧
      current.Evolves seen ∧ current.Evolves current' ∧ current'.revokedAt = none ∧
        current'.replacedBy = current.replacedBy ∧
          race.Consumed k (entries ++ [(i, kind)]) current'.consumedAt current'.graceExpiresAt := by
  have hmem := List.mem_of_getElem? ht
  have unexpired : t ≤ current.expiresAt := evolves.expiresAt ▸ fair.unexpired t hmem
  obtain ⟨deadline, closes⟩ := Option.isSome_iff_exists.mp (fair.closes t hmem)
  cases entries with
  | nil =>
    have verdict : current.judge t race.settings.policy = .firstUse t deadline :=
      Row.judge_eq_firstUse_iff.mpr ⟨live, unexpired, consumed, rfl, closes⟩
    have hfront : ∀ r ∈ race.front, k.presented current r = false := by
      intro r hr
      cases k with
      | memory => simpa [StoreKind.presented, evolves.hash] using fair.first r hr
      | durable =>
        have hid := fair.keyed rfl r (List.mem_append_left _ hr)
        simpa [StoreKind.presented, evolves.id] using hid
    have hback : k = .durable → ∀ r ∈ race.back ++ added, k.presented current r = false := by
      rintro rfl r hr
      have hid : r.id ≠ race.row.id := by
        rcases List.mem_append.mp hr with hr | hr
        · exact fair.keyed rfl r (List.mem_append_right _ hr)
        · exact foreign r hr
      simpa [StoreKind.presented, evolves.id] using hid
    have hself : k.presented current current := by cases k <;> simp [StoreKind.presented]
    rw [verdict, StoreKind.obey, k.change_append_cons hfront hself hback]
    refine ⟨_, .first, _, rfl, current.evolves_stamp _ _, current.evolves_stamp _ _, ?_, ?_, ?_⟩
    · rw [Row.revokedAt_stamp, live]
    · rw [Row.replacedBy_stamp]
    · refine ⟨rfl, List.forall_mem_nil _, t, deadline, ht, closes, ?_⟩
      have unconsumed : current.consumedAt = none := consumed
      simp [Row.stamp, unconsumed]
  | cons entry others =>
    obtain ⟨hfirst, hothers, u, g, hu, hg, hconsumed, hgrace⟩ := consumed
    have intime : t ≤ k.keep g :=
      fair.le_deadline ht hu (absent entry List.mem_cons_self).symm hg
    have verdict : current.judge t race.settings.policy = .withinGrace :=
      Row.judge_eq_withinGrace_iff.mpr
        ⟨live, unexpired, by rw [hconsumed]; rfl, k.keep g, hgrace, intime⟩
    rw [verdict]
    refine ⟨current, .grace, current, rfl, Row.Evolves.refl _, Row.Evolves.refl _, live, rfl,
      hfirst, ?_, u, g, hu, hg, hconsumed, hgrace⟩
    intro other hother
    rcases List.mem_append.mp hother with hother | hother
    · exact hothers other hother
    · rw [List.mem_singleton.mp hother]

/-- What the links so far leave in the row: the successor of the first of them. -/
def Linked (phases : Nat → Phase) : List (Nat × Bool) → Option Uuid → Prop
  | [], successor => successor = none
  | (i, linked) :: others, successor => linked = true ∧ (∀ other ∈ others, other.2 = false) ∧
      ∃ new, phases i = .linked new ∧ successor = some new.id

/-- The first of the links gave the row its successor, and the others were told that it has one. -/
theorem Linked.exists_linker {phases : Nat → Phase} {entries : List (Nat × Bool)}
    {successor : Option Uuid} (h : Linked phases entries successor) (someone : entries ≠ []) :
    ∃ (linker : Nat) (later : List Nat) (new : Row),
      entries = (linker, true) :: later.map (·, false) ∧
        phases linker = .linked new ∧ successor = some new.id := by
  cases entries with
  | nil => exact absurd rfl someone
  | cons entry later =>
    obtain ⟨linker, linked⟩ := entry
    obtain ⟨rfl, hlater, new, hphase, hnew⟩ := h
    exact ⟨linker, later.map Prod.fst, new, by rw [← eq_map_of_forall hlater], hphase, hnew⟩

/-- **What the table holds while the race is under way.** -/
structure Underway (race : Race) (k : StoreKind) (deeds : List Deed) (phases : Nat → Phase)
    (w : World AnyStore) : Prop where
  ready : w.store.IsReady
  kind : w.store.kind = k
  standing : ∃ current,
    w.store.rows = race.front ++ current ::
      (race.back ++ (Deed.signed Deed.inserted? deeds).map Prod.snd) ∧
    race.row.Evolves current ∧ current.revokedAt = none ∧
      race.Consumed k (Deed.signed Deed.kind? deeds) current.consumedAt current.graceExpiresAt ∧
        Linked phases (Deed.signed Deed.linking? deeds) current.replacedBy
  consumes : Tallied (Deed.signed Deed.kind? deeds) phases 1
  inserts : Tallied (Deed.signed Deed.inserted? deeds) phases 2
  links : Tallied (Deed.signed Deed.linking? deeds) phases 3
  known : ∀ i new, phases i = .pending new ∨ phases i = .linked new →
    (i, new) ∈ Deed.signed Deed.inserted? deeds
  successors : ∀ entry ∈ Deed.signed Deed.inserted? deeds, entry.2.subject = race.row.subject ∧
    entry.2.family = race.row.family ∧ entry.2.IsPristine ∧ entry.2.id ≠ race.row.id

/-- What is read off a call that is carried out comes last. -/
theorem signed_observed {β : Type} {read : Deed → Option β} {w : World AnyStore} {call : StoreCall}
    {answer : call.Answer} {after : Table} (deeds : List Deed) (i : Nat)
    (h : w.store.CarriesOut call answer after) :
    Deed.signed read (deeds ++ observed i w (.store call)) = Deed.signed read deeds ++
      ((read ⟨i, w.store.rows, call, .done answer, after⟩).map (i, ·)).toList := by
  have hperform : TokenStore.perform w.store call = w.store.perform call := rfl
  have hobserved : observed i w (.store call) =
      [⟨i, w.store.rows, call, .done answer, after⟩] := by
    simp only [observed, hperform, h.outcome]
    rw [show TokenStore.rows (w.store.perform call).store = after from h.rows]
    rfl
  rw [hobserved, Deed.signed_concat]

namespace Underway

variable {race : Race} {k : StoreKind} {deeds : List Deed} {phases : Nat → Phase}
  {w w' : World AnyStore} {i : Nat} {t : Instant}

/-- What is not asked of the store does not touch the race. -/
theorem unobserved (h : race.Underway k deeds phases w) {r : Request} (hidden : observed i w r = [])
    (same : w'.store = w.store) :
    race.Underway k (deeds ++ observed i w r) (Function.update phases i (phases i)) w' := by
  obtain ⟨ready, kind, standing, consumes, inserts, links, known, successors⟩ := h
  rw [← same] at ready kind standing
  rw [hidden, List.append_nil, Function.update_eq_self]
  exact ⟨ready, kind, standing, consumes, inserts, links, known, successors⟩

/-- No successor has the identifier of the row. -/
theorem foreign (h : race.Underway k deeds phases w) :
    ∀ r ∈ (Deed.signed Deed.inserted? deeds).map Prod.snd, r.id ≠ race.row.id := by
  intro r hr
  obtain ⟨entry, hentry, rfl⟩ := List.mem_map.mp hr
  exact (h.successors entry hentry).2.2.2

/-- A phase that is no successor's leaves the links as they were read. -/
theorem linked_update {entries : List (Nat × Bool)} {successor : Option Uuid} {next : Phase}
    (h : Linked phases entries successor) (unlinked : ∀ new, phases i ≠ .linked new) :
    Linked (Function.update phases i next) entries successor := by
  cases entries with
  | nil => exact h
  | cons entry others =>
    obtain ⟨hfirst, hothers, new, hnew, hsuccessor⟩ := h
    refine ⟨hfirst, hothers, new, ?_, hsuccessor⟩
    have apart : entry.1 ≠ i := fun heq => unlinked new (heq ▸ hnew)
    rw [Function.update_of_ne apart]
    exact hnew

/-- The first link tells its successor to the row; a later one changes nothing. -/
theorem linked_concat {entries : List (Nat × Bool)} {r : Row} {new : Row}
    (h : Linked phases entries r.replacedBy) (unlinked : ∀ other, phases i ≠ .linked other) :
    Linked (Function.update phases i (.linked new)) (entries ++ [(i, r.replacedBy.isNone)])
      (r.succeededBy new.id).replacedBy := by
  cases entries with
  | nil =>
    have hnone : r.replacedBy = none := h
    rw [hnone]
    refine ⟨rfl, nofun, new, Function.update_self .., ?_⟩
    rw [Row.succeededBy, hnone]
    rfl
  | cons entry others =>
    obtain ⟨hfirst, hothers, other, hother, hsuccessor⟩ := linked_update h unlinked
    refine ⟨hfirst, ?_, other, hother, ?_⟩
    · intro later hlater
      rcases List.mem_append.mp hlater with hlater | hlater
      · exact hothers later hlater
      · rw [List.mem_singleton.mp hlater, hsuccessor]
        rfl
    · rw [Row.succeededBy, hsuccessor]
      rfl

/-- Who adds or links nothing keeps what is known of the others. -/
theorem known_update {entries : List (Nat × Row)} {next : Phase}
    (h : ∀ j new, phases j = .pending new ∨ phases j = .linked new → (j, new) ∈ entries)
    (hnext : ∀ new, next = .pending new ∨ next = .linked new → (i, new) ∈ entries) :
    ∀ j new, Function.update phases i next j = .pending new ∨
      Function.update phases i next j = .linked new → (j, new) ∈ entries := by
  intro j new hj
  by_cases hji : j = i
  · subst hji
    rw [Function.update_self] at hj
    exact hnext new hj
  · rw [Function.update_of_ne hji] at hj
    exact h j new hj

/-- **A presentation is accepted**: the first of them stamps the row, the others find its grace
    window open. -/
theorem consume (h : race.Underway k deeds phases w) (fair : race.IsFair k)
    (ht : race.instants[i]? = some t) (phase : phases i = .presenting) :
    ∃ seen kind w',
      answer w (.store (race.presentation t)) = (.ok (.ok (.accepted seen kind)), w') ∧
      race.row.Evolves seen ∧
        race.Underway k (deeds ++ observed i w (.store (race.presentation t)))
          (Function.update phases i .holding) w' := by
  obtain ⟨current, hrows, hevolves, live, hconsumed, hlinked⟩ := h.standing
  have hhash : current.hash = hashOf race.token := hevolves.hash.trans fair.hash
  have found : w.store.rows.byHash? (hashOf race.token) = some current := by
    rw [hrows]
    exact Table.byHash?_append_cons (fun r hr => fair.hash ▸ fair.first r hr) hhash
  have due : (phases i).laps < 1 := by
    rw [phase]
    exact Nat.one_pos
  have absent : ∀ entry ∈ Deed.signed Deed.kind? deeds, entry.1 ≠ i := by
    rintro ⟨j, kind⟩ hentry rfl
    exact h.consumes.not_mem due hentry
  obtain ⟨seen, kind, current', obeyed, hseen, hcurrent', live', linked', hconsumed'⟩ :=
    fair.accepted ht hevolves live hconsumed absent h.foreign
  rw [← hrows, ← h.kind] at obeyed
  have carried : w.store.CarriesOut (race.presentation t) (.accepted seen kind) _ :=
    h.ready.consume (Clock.now_fixed t) found obeyed
  obtain ⟨w', hanswer, ready, hkind, hrows', -⟩ := answer_of_carriesOut carried
  refine ⟨seen, kind, w', hanswer, hevolves.trans hseen, ?_⟩
  -- the deed is an acceptance, and adds and links nothing
  have hkinds : Deed.signed Deed.kind? (deeds ++ observed i w (.store (race.presentation t))) =
      Deed.signed Deed.kind? deeds ++ [(i, kind)] := signed_observed deeds i carried
  have hinserted : Deed.signed Deed.inserted? (deeds ++ observed i w _) =
      Deed.signed Deed.inserted? deeds ++ [] := signed_observed deeds i carried
  have hlinking : Deed.signed Deed.linking? (deeds ++ observed i w _) =
      Deed.signed Deed.linking? deeds ++ [] := signed_observed deeds i carried
  rw [List.append_nil] at hinserted hlinking
  have unlinked : ∀ new, phases i ≠ .linked new := by
    rw [phase]
    exact fun new => nofun
  refine ⟨ready, hkind.trans h.kind, ?_, ?_, ?_, ?_, ?_, ?_⟩
  · rw [hkinds, hinserted, hlinking]
    refine ⟨current', hrows', hevolves.trans hcurrent', live', hconsumed', ?_⟩
    rw [linked']
    exact linked_update hlinked unlinked
  · rw [hkinds]
    exact h.consumes.concat due Nat.le.refl kind
  · rw [hinserted]
    exact h.inserts.update (by rw [phase]; decide)
  · rw [hlinking]
    exact h.links.update (by rw [phase]; decide)
  · rw [hinserted]
    exact known_update h.known fun new hnew => by rcases hnew with hnew | hnew <;> cases hnew
  · rw [hinserted]
    exact h.successors

/-- **A successor is added** to the end of the table. -/
theorem insert (h : race.Underway k deeds phases w) (fair : race.IsFair k)
    (phase : phases i = .holding) {token : NewToken} (subject : token.subject = race.row.subject)
    (family : token.family = race.row.family) (hash : ∃ text, token.hash = hashOf text)
    (fresh : ∀ d ∈ observed i w (.store (.insert token)), d.IsFresh) :
    ∃ new w', answer w (.store (.insert token)) = (.ok (.ok new), w') ∧ new.family = token.family ∧
      race.Underway k (deeds ++ observed i w (.store (.insert token)))
        (Function.update phases i (.pending new)) w' := by
  obtain ⟨current, hrows, hevolves, live, hconsumed, hlinked⟩ := h.standing
  obtain ⟨newHash, newId⟩ := fresh _ (List.mem_singleton_self _)
  let new := k.keepRow token.row
  have hid : new.id = token.id := k.keepRow_id _
  have hfamily : new.family = token.family := k.keepRow_family _
  have hsubject : new.subject = token.subject := k.keepRow_subject _
  have taken : w.store.kind = .durable → Keepable token.subject ∧ Keepable token.hash ∧
      token.hash.length = 64 ∧ w.store.rows.hasId token.id = false := by
    intro durable
    obtain ⟨text, hash⟩ := hash
    rw [subject, hash]
    exact ⟨fair.kept (h.kind.symm.trans durable), nul_not_mem_hashOf text, length_hashOf text,
      newId⟩
  have carried : w.store.CarriesOut (.insert token) new (w.store.rows ++ [new]) := by
    have hcarried := h.ready.insert newHash taken
    rwa [h.kind] at hcarried
  obtain ⟨w', hanswer, ready, hkind, hrows', -⟩ := answer_of_carriesOut carried
  refine ⟨new, w', hanswer, hfamily, ?_⟩
  -- the deed adds the successor, and accepts and links nothing
  have hkinds : Deed.signed Deed.kind? (deeds ++ observed i w _) =
      Deed.signed Deed.kind? deeds ++ [] := signed_observed deeds i carried
  have hinserted : Deed.signed Deed.inserted? (deeds ++ observed i w (.store (.insert token))) =
      Deed.signed Deed.inserted? deeds ++ [(i, new)] := signed_observed deeds i carried
  have hlinking : Deed.signed Deed.linking? (deeds ++ observed i w _) =
      Deed.signed Deed.linking? deeds ++ [] := signed_observed deeds i carried
  rw [List.append_nil] at hkinds hlinking
  have apart : new.id ≠ race.row.id := by
    intro heq
    have hcurrent : current ∈ w.store.rows := by
      rw [hrows]
      exact List.mem_append_right _ List.mem_cons_self
    exact Table.hasId_eq_false_iff.mp newId current hcurrent
      (hevolves.id.trans (heq.symm.trans hid))
  have unlinked : ∀ new, phases i ≠ .linked new := by
    rw [phase]
    exact fun new => nofun
  refine ⟨ready, hkind.trans h.kind, ?_, ?_, ?_, ?_, ?_, ?_⟩
  · rw [hkinds, hinserted, hlinking]
    refine ⟨current, ?_, hevolves, live, hconsumed, linked_update hlinked unlinked⟩
    rw [hrows', hrows]
    simp
  · rw [hkinds]
    exact h.consumes.update (by rw [phase]; exact ⟨fun _ => Nat.le.refl, fun _ => Nat.le_succ 1⟩)
  · rw [hinserted]
    exact h.inserts.concat (by rw [phase]; decide) Nat.le.refl new
  · rw [hlinking]
    exact h.links.update (by rw [phase]; exact ⟨nofun, nofun⟩)
  · rw [hinserted]
    refine known_update (fun j new' hj => List.mem_append_left _ (h.known j new' hj)) ?_
    intro new' hnew'
    rcases hnew' with hnew' | hnew' <;> cases hnew'
    exact List.mem_append_right _ (List.mem_singleton_self _)
  · rw [hinserted]
    intro entry hentry
    rcases List.mem_append.mp hentry with hentry | hentry
    · exact h.successors entry hentry
    · rw [List.mem_singleton.mp hentry]
      exact ⟨hsubject.trans subject, hfamily.trans family, k.isPristine_keepRow token, apart⟩

/-- **A successor is linked**, if it is the first; the row keeps the one that it has. -/
theorem link (h : race.Underway k deeds phases w) (fair : race.IsFair k) {new : Row}
    (phase : phases i = .pending new) :
    ∃ linked w', answer w (.store (.link race.row.id new.id)) = (.ok (.ok linked), w') ∧
      race.Underway k (deeds ++ observed i w (.store (.link race.row.id new.id)))
        (Function.update phases i (.linked new)) w' := by
  obtain ⟨current, hrows, hevolves, live, hconsumed, hlinked⟩ := h.standing
  have hadded := h.known i new (.inl phase)
  generalize hrest : race.back ++ (Deed.signed Deed.inserted? deeds).map Prod.snd = rest at hrows
  have hnew : new ∈ w.store.rows := by
    rw [hrows, ← hrest]
    refine List.mem_append_right _ (List.mem_cons_of_mem _ (List.mem_append_right _ ?_))
    exact List.mem_map_of_mem (f := Prod.snd) hadded
  have known : w.store.rows.hasId new.id := by
    rw [Table.hasId, List.any_eq_true]
    exact ⟨new, hnew, decide_eq_true rfl⟩
  have hfront : ∀ r ∈ race.front, Row.unlinked current.id r = false := fun r hr =>
    hevolves.id ▸ fair.alone r (List.mem_append_left _ hr)
  have hback : ∀ r ∈ rest, Row.unlinked current.id r = false := by
    rw [← hrest, hevolves.id]
    intro r hr
    rcases List.mem_append.mp hr with hr | hr
    · exact fair.alone r (List.mem_append_right _ hr)
    · simp [Row.unlinked, h.foreign r hr]
  have answered : w.store.rows.any (Row.unlinked race.row.id) = current.replacedBy.isNone := by
    have hnone : race.front.any (Row.unlinked current.id) = false := by simpa using hfront
    have hnone' : rest.any (Row.unlinked current.id) = false := by simpa using hback
    rw [hrows, ← hevolves.id, List.any_append, List.any_cons, hnone, hnone', Bool.or_false,
      Bool.false_or]
    simp [Row.unlinked]
  have hafter : w.store.kind.change (Row.unlinked race.row.id)
      (fun r => { r with replacedBy := some new.id }) w.store.rows =
        race.front ++ current.succeededBy new.id :: rest := by
    rw [hrows, ← hevolves.id]
    exact w.store.kind.link_append_cons hfront hback
  have carried : w.store.CarriesOut (.link race.row.id new.id) current.replacedBy.isNone
      (race.front ++ current.succeededBy new.id :: rest) := by
    have hcarried : w.store.CarriesOut (.link race.row.id new.id) _ _ :=
      h.ready.link fun _ => known
    rwa [answered, hafter] at hcarried
  obtain ⟨w', hanswer, ready, hkind, hrows', -⟩ := answer_of_carriesOut carried
  refine ⟨_, w', hanswer, ?_⟩
  -- the deed is a link, and accepts and adds nothing
  have hkinds : Deed.signed Deed.kind? (deeds ++ observed i w _) =
      Deed.signed Deed.kind? deeds ++ [] := signed_observed deeds i carried
  have hinserted : Deed.signed Deed.inserted? (deeds ++ observed i w _) =
      Deed.signed Deed.inserted? deeds ++ [] := signed_observed deeds i carried
  have hlinking : Deed.signed Deed.linking? (deeds ++ observed i w _) =
      Deed.signed Deed.linking? deeds ++ [(i, current.replacedBy.isNone)] :=
    signed_observed deeds i carried
  rw [List.append_nil] at hkinds hinserted
  refine ⟨ready, hkind.trans h.kind, ?_, ?_, ?_, ?_, ?_, ?_⟩
  · rw [hkinds, hinserted, hlinking]
    refine ⟨current.succeededBy new.id, ?_, hevolves.trans (current.evolves_succeededBy new.id),
      live, ?_, linked_concat hlinked (by simp [phase])⟩
    · rw [hrows', hrest]
    · exact hconsumed
  · rw [hkinds]
    exact h.consumes.update
      (by rw [phase]; exact ⟨fun _ => Nat.le_succ 1, fun _ => Nat.le_add_left 1 2⟩)
  · rw [hinserted]
    exact h.inserts.update (by rw [phase]; exact ⟨fun _ => Nat.le.refl, fun _ => Nat.le_succ 2⟩)
  · rw [hlinking]
    exact h.links.concat (by rw [phase]; exact Nat.lt_succ_self 2) Nat.le.refl _
  · rw [hinserted]
    refine known_update h.known fun new' hnew' => ?_
    rcases hnew' with hnew' | hnew' <;> cases hnew'
    exact hadded
  · rw [hinserted]
    exact h.successors

/-- **Every request is answered well**, and the race goes on in the next phase. -/
theorem step (h : race.Underway k deeds phases w) (fair : race.IsFair k)
    (ht : race.instants[i]? = some t) {r : Request}
    (asks : (phases i).Asks race.row (race.presentation t) r)
    (fresh : ∀ d ∈ observed i w r, d.IsFresh) :
    ∃ reply w' next, answer w r = (.ok reply, w') ∧ (phases i).Hears race.row r reply next ∧
      race.Underway k (deeds ++ observed i w r) (Function.update phases i next) w' := by
  cases r with
  | secret => exact ⟨_, _, _, rfl, .secret _, h.unobserved rfl rfl⟩
  | uuid => exact ⟨_, _, _, rfl, .uuid _, h.unobserved rfl rfl⟩
  | log event => exact ⟨_, _, _, rfl, .log event, h.unobserved rfl rfl⟩
  | store call =>
    cases phase : phases i with
    | presenting =>
      rw [phase] at asks
      obtain rfl : call = race.presentation t := asks
      obtain ⟨seen, kind, w', hanswer, hseen, hnext⟩ := h.consume fair ht phase
      exact ⟨_, w', .holding, hanswer, .accepted hseen, hnext⟩
    | holding =>
      rw [phase] at asks
      cases call with
      | insert token =>
        obtain ⟨subject, family, hash⟩ := asks
        obtain ⟨new, w', hanswer, hfamily, hnext⟩ := h.insert fair phase subject family hash fresh
        exact ⟨_, w', .pending new, hanswer, .added hfamily, hnext⟩
      | consume | revokeFamily | revokeSubject | link | getByHash | listFamily => cases asks
    | pending new =>
      rw [phase] at asks
      cases call with
      | link id successor =>
        obtain ⟨rfl, rfl⟩ := asks
        obtain ⟨linked, w', hanswer, hnext⟩ := h.link fair phase
        exact ⟨_, w', .linked new, hanswer, .answered linked, hnext⟩
      | consume | revokeFamily | revokeSubject | insert | getByHash | listFamily => cases asks
    | linked new =>
      rw [phase] at asks
      cases asks

end Underway

/-- What a rotation returns in the end. -/
def Returns (race : Race) (phase : Phase) (value : Value) : Prop :=
  ∃ new issued, phase = .linked new ∧ issued.id = new.id ∧ issued.family = race.row.family ∧
    value = .rotated { issued, subject := race.row.subject, previousId := race.row.id }

/-- A rotation of the race completes within ten requests. -/
theorem completes {race : Race} {k : StoreKind} (fair : race.IsFair k) {t : Instant}
    (ht : t ∈ race.instants) :
    (Work.program race.settings (.fixed t) (.rotate race.token)).Completes race.row
      (race.presentation t) race.Returns .presenting 10 := by
  obtain ⟨expiry, expires⟩ := Option.isSome_iff_exists.mp (fair.expires t ht)
  change Completes _ _ _ _ _ (10 + 0)
  refine completes_bind
    (Service.rotate_completes (Clock.now_fixed t) rfl fair.named expires) ?_
  rintro _ rotated ⟨new, rfl, hid, hfamily, hsubject, hprevious⟩
  obtain ⟨issued, subject, previousId⟩ := rotated
  obtain rfl : subject = race.row.subject := hsubject
  obtain rfl : previousId = race.row.id := hprevious
  exact ⟨new, issued, rfl, hid, hfamily, rfl⟩

end Race

/-! ## 3. Schedules -/

namespace Pool

open Race

/-- **The calls of a race after some turns**: the table is that of a race under way, and each call
    completes within what is left of its ten requests. -/
structure Racing (race : Race) (k : StoreKind) (deeds : List Deed) (turns : List Nat)
    (phases : Nat → Phase) (p : Pool) : Prop where
  underway : race.Underway k deeds phases p.world
  calls : ∀ (i : Nat) (call : Program Value), p.calls[i]? = some call →
    ∃ t, race.instants[i]? = some t ∧
      call.Completes race.row (race.presentation t) race.Returns (phases i) (10 - turns.count i)
  length : p.calls.length = race.instants.length
  waiting : ∀ i, race.instants.length ≤ i → phases i = .presenting

namespace Racing

variable {race : Race} {k : StoreKind} {deeds : List Deed} {turns : List Nat}
  {phases : Nat → Phase} {p : Pool}

theorem begin {world : World AnyStore} (ready : world.store.IsReady)
    (rows : world.store.rows = race.rows) (fair : race.IsFair world.store.kind) :
    (Pool.begin race.settings world race.jobs).Racing race world.store.kind [] []
      (fun _ => .presenting) where
  underway := by
    refine ⟨ready, rfl, ⟨race.row, ?_, Row.Evolves.refl _, fair.live, fair.unconsumed,
      fair.unlinked⟩, fun _ => rfl, fun _ => rfl, fun _ => rfl, ?_, nofun⟩
    · exact rows.trans (by simp [Race.rows, Deed.signed])
    · rintro i new (h | h) <;> cases h
  calls := by
    intro i call hcall
    simp only [Pool.begin, Race.jobs, List.map_map, List.getElem?_map, Option.map_eq_some_iff]
      at hcall
    obtain ⟨t, ht, rfl⟩ := hcall
    exact ⟨t, ht, Race.completes fair (List.mem_of_getElem? ht)⟩
  length := by simp [Pool.begin, Race.jobs]
  waiting := fun _ _ => rfl

/-- **One turn keeps the calls racing.** -/
theorem step (h : p.Racing race k deeds turns phases) (fair : race.IsFair k) (i : Nat)
    (fresh : ∀ d ∈ p.stepDeeds i, d.IsFresh) :
    ∃ phases', (p.step i).Racing race k (deeds ++ p.stepDeeds i) (turns ++ [i]) phases' := by
  have counted (j : Nat) (hji : j ≠ i) : (turns ++ [i]).count j = turns.count j := by
    rw [List.count_append, List.count_singleton, if_neg (by simpa using Ne.symm hji), Nat.add_zero]
  have counted' : (turns ++ [i]).count i = turns.count i + 1 := by
    rw [List.count_append, List.count_singleton_self]
  cases hcall : p.calls[i]? with
  | none =>
    have hdeeds : p.stepDeeds i = [] := by simp [stepDeeds, hcall]
    have hstep : p.step i = p := by simp [Pool.step, hcall]
    rw [hdeeds, hstep, List.append_nil]
    refine ⟨phases, h.underway, fun j other hother => ?_, h.length, h.waiting⟩
    have hji : j ≠ i := by
      rintro rfl
      rw [hcall] at hother
      cases hother
    rw [counted j hji]
    exact h.calls j other hother
  | some call =>
    obtain ⟨t, ht, hcompletes⟩ := h.calls i call hcall
    have hlt : i < p.calls.length := (List.getElem?_eq_some_iff.mp hcall).1
    -- what is left of the call, and how far it is
    have hleft : ∃ left w' next, p.step i = { world := w', calls := p.calls.set i left } ∧
        race.Underway k (deeds ++ p.stepDeeds i) (Function.update phases i next) w' ∧
          left.Completes race.row (race.presentation t) race.Returns next
            (10 - (turns.count i + 1)) := by
      cases call with
      | finish outcome =>
        refine ⟨.finish outcome, p.world, phases i, ?_, ?_, ?_⟩
        · simp only [Pool.step, hcall, advance]
        · rw [Function.update_eq_self]
          have hdeeds : p.stepDeeds i = [] := by simp [stepDeeds, hcall]
          rw [hdeeds, List.append_nil]
          exact h.underway
        · cases outcome with
          | done value => exact hcompletes
          | failed | aborted => cases hcompletes
      | request r next =>
        obtain ⟨-, asks, hnext⟩ := hcompletes
        have hdeeds : p.stepDeeds i = observed i p.world r := by simp [stepDeeds, hcall]
        rw [hdeeds] at fresh ⊢
        obtain ⟨reply, w', phase, hanswer, heard, hunderway⟩ := h.underway.step fair ht asks fresh
        refine ⟨next reply, w', phase, ?_, hunderway, hnext reply phase heard⟩
        simp only [Pool.step, hcall, advance, hanswer]
    obtain ⟨left, w', next, hstep, hunderway, hcompletes'⟩ := hleft
    rw [hstep]
    refine ⟨_, hunderway, fun j other hother => ?_, ?_, fun j hj => ?_⟩
    · by_cases hji : j = i
      · subst hji
        rw [List.getElem?_set_self hlt, Option.some.injEq] at hother
        subst hother
        rw [Function.update_self, counted']
        exact ⟨t, ht, hcompletes'⟩
      · rw [List.getElem?_set_ne (Ne.symm hji)] at hother
        rw [Function.update_of_ne hji, counted j hji]
        exact h.calls j other hother
    · exact (List.length_set ..).trans h.length
    · have hi : i < race.instants.length := (List.getElem?_eq_some_iff.mp ht).1
      rw [Function.update_of_ne (by omega)]
      exact h.waiting j hj

/-- **A whole schedule does.** -/
theorem run (h : p.Racing race k deeds turns phases) (fair : race.IsFair k) {schedule : List Nat}
    (fresh : ∀ d ∈ p.deeds schedule, d.IsFresh) :
    ∃ phases', (p.run schedule).Racing race k (deeds ++ p.deeds schedule) (turns ++ schedule)
      phases' := by
  induction schedule generalizing p deeds turns phases with
  | nil => exact ⟨phases, by rwa [Pool.deeds, List.append_nil, List.append_nil]⟩
  | cons i rest ih =>
    rw [Pool.deeds] at fresh
    obtain ⟨phases', hstep⟩ := h.step fair i fun d hd => fresh d (List.mem_append_left _ hd)
    obtain ⟨phases'', hrest⟩ := ih hstep fun d hd => fresh d (List.mem_append_right _ hd)
    rw [List.append_assoc, List.append_assoc] at hrest
    exact ⟨phases'', hrest⟩

/-- A call that had its ten turns has returned. -/
theorem returned (h : p.Racing race k deeds turns phases) {i : Nat} (hi : i < race.instants.length)
    (enough : 10 ≤ turns.count i) :
    ∃ value, p.calls[i]? = some (.finish (.done value)) ∧ race.Returns (phases i) value := by
  have hlt : i < p.calls.length := h.length.symm ▸ hi
  have hcall := List.getElem?_eq_getElem hlt
  obtain ⟨t, -, hcompletes⟩ := h.calls i _ hcall
  rw [Nat.sub_eq_zero_of_le enough] at hcompletes
  rw [hcall]
  cases hend : p.calls[i] with
  | finish outcome =>
    rw [hend] at hcompletes
    cases outcome with
    | done value => exact ⟨value, rfl, hcompletes⟩
    | failed | aborted => cases hcompletes
  | request r next =>
    rw [hend] at hcompletes
    exact absurd hcompletes.1 (Nat.lt_irrefl 0)

/-- When all calls had their turns, each of them has one entry of each lap. -/
theorem perm_range (h : p.Racing race k deeds turns phases)
    (enough : ∀ i < race.instants.length, 10 ≤ turns.count i) {β : Type} {entries : List (Nat × β)}
    {lap : Nat} (tallied : Tallied entries phases lap) (positive : 0 < lap) (le : lap ≤ 3) :
    (entries.map Prod.fst).Perm (List.range race.instants.length) := by
  refine tallied.perm_range (fun i hi => ?_) (fun i hi => ?_)
  · obtain ⟨value, -, new, issued, hphase, -⟩ := h.returned hi (enough i hi)
    rw [hphase]
    exact le
  · rw [h.waiting i hi]
    exact positive

end Racing

/-- **What the race comes to**: every rotation returned a successor of its own. One of them found
    the token unused, and the row is stamped by its instant; the others found the grace window open.
    One of them linked its successor, and the others were told that there is one. -/
structure Finished (race : Race) (k : StoreKind) (deeds : List Deed) (done : Pool)
    (first linker : Nat) (others later : List Nat) (news : Table) : Prop where
  answered : ∀ i < race.instants.length, ∃ issued,
    done.calls[i]? = some (.finish (.done (.rotated
      { issued, subject := race.row.subject, previousId := race.row.id }))) ∧
      issued.family = race.row.family ∧ issued.id ∈ news.map Row.id
  consumes : Deed.signed Deed.kind? deeds = (first, .first) :: others.map (·, .grace)
  consumers : (first :: others).Perm (List.range race.instants.length)
  links : Deed.signed Deed.linking? deeds = (linker, true) :: later.map (·, false)
  linkers : (linker :: later).Perm (List.range race.instants.length)
  rows : ∃ t deadline issued, race.instants[first]? = some t ∧
    race.settings.policy.graceExpiresAt? t = some deadline ∧
    done.calls[linker]? = some (.finish (.done (.rotated
      { issued, subject := race.row.subject, previousId := race.row.id }))) ∧
    done.rows = race.front ++
      { race.row with
        consumedAt := some t
        graceExpiresAt := some (k.keep deadline)
        replacedBy := some issued.id } :: (race.back ++ news)
  count : news.length = race.instants.length
  members : ∀ r ∈ news, r.subject = race.row.subject ∧ r.family = race.row.family ∧ r.IsPristine

/-- **All rotations come through**, under every schedule that gives each of them its turns and on a
    store of either kind, if the hashes and identifiers that they draw are free when they are added.
    The first to present the token stamps the row, and the first to link, which may be another one,
    gives it its successor. -/
theorem racing (race : Race) {world : World AnyStore} (ready : world.store.IsReady)
    (rows : world.store.rows = race.rows) (fair : race.IsFair world.store.kind)
    (someone : race.instants ≠ []) (schedule : List Nat)
    (turns : ∀ i < race.instants.length, 10 ≤ schedule.count i)
    (fresh : ∀ d ∈ (begin race.settings world race.jobs).deeds schedule, d.IsFresh) :
    let p := begin race.settings world race.jobs
    ∃ first linker others later news,
      Finished race world.store.kind (p.deeds schedule) (p.run schedule) first linker others later
        news := by
  intro p
  obtain ⟨phases, h⟩ := (Racing.begin ready rows fair).run fair fresh
  rw [List.nil_append, List.nil_append] at h
  have hends (i : Nat) (hi : i < race.instants.length) := h.returned hi (turns i hi)
  have hconsumers := h.perm_range turns h.underway.consumes (by decide) (by decide)
  have hinserters := h.perm_range turns h.underway.inserts (by decide) (by decide)
  have hlinkers := h.perm_range turns h.underway.links (by decide) (by decide)
  have nonempty {β : Type} {entries : List (Nat × β)}
      (all : (entries.map Prod.fst).Perm (List.range race.instants.length)) : entries ≠ [] := by
    rintro rfl
    exact someone (List.eq_nil_of_length_eq_zero (by simpa using all.length_eq.symm))
  obtain ⟨current, hrows, hevolves, live, hconsumed, hlinked⟩ := h.underway.standing
  -- the first of the presentations, and the first of the links
  obtain ⟨first, others, t, deadline, hkinds, ht, hdeadline, hstamp, hgrace⟩ :=
    Consumed.exists_first hconsumed (nonempty hconsumers)
  obtain ⟨linker, later, new, hlinks, hphase, hnew⟩ :=
    Linked.exists_linker hlinked (nonempty hlinkers)
  rw [hkinds] at hconsumers
  rw [hlinks] at hlinkers
  simp only [List.map_cons, List.map_map, Function.comp_def, List.map_id_fun']
    at hconsumers hlinkers
  have hlinker : linker < race.instants.length :=
    List.mem_range.mp (hlinkers.mem_iff.mp List.mem_cons_self)
  obtain ⟨value, hcall, new', issued, hphase', hid, -, rfl⟩ := hends linker hlinker
  rw [hphase] at hphase'
  obtain rfl : new = new' := Phase.linked.inj hphase'
  have hkeep : world.store.kind.keep t = t := by
    cases world.store.kind with
    | memory => rfl
    | durable => exact fair.whole t (List.mem_of_getElem? ht)
  refine ⟨first, linker, others, later,
    (Deed.signed Deed.inserted? (p.deeds schedule)).map Prod.snd, ?_⟩
  constructor
  case answered =>
    intro i hi
    obtain ⟨value, hcall, new, issued, hphase, hid, hfamily, rfl⟩ := hends i hi
    refine ⟨issued, hcall, hfamily, ?_⟩
    have hmem := h.underway.known i new (.inr hphase)
    rw [hid, List.map_map]
    exact List.mem_map_of_mem (f := Row.id ∘ Prod.snd) hmem
  case consumes => exact hkinds
  case consumers => exact hconsumers
  case links => exact hlinks
  case linkers => exact hlinkers
  case rows =>
    refine ⟨t, deadline, issued, ht, hdeadline, hcall, hrows.trans ?_⟩
    rw [hevolves.eq_of_revokedAt (live.trans fair.live.symm), hstamp, hgrace, hnew, hkeep, hid]
  case count =>
    have hlength := hinserters.length_eq
    rwa [List.length_map, List.length_range, ← List.length_map (f := Prod.snd)] at hlength
  case members =>
    intro r hr
    obtain ⟨entry, hentry, rfl⟩ := List.mem_map.mp hr
    obtain ⟨hsubject, hfamily, pristine, -⟩ := h.underway.successors entry hentry
    exact ⟨hsubject, hfamily, pristine⟩

/-- A race of trial: two rotations of the token of a sample, five and three seconds after it, with
    more rows behind it. -/
def trialRace (kept : Row → Row) (back : Table) : Race where
  settings := .trial .default
  token := (Secret.ofNat 100).token
  instants := [⟨sampleInstant.nanos + (Duration.ofSeconds 5).nanos⟩,
    ⟨sampleInstant.nanos + (Duration.ofSeconds 3).nanos⟩]
  front := []
  row := kept (sampleRow (Secret.ofNat 100).token "alice" (.ofLists [] [])).1
  back

/-- Two rotations on a database, by instants that run backwards: the one presents the token, then
    the other takes all its turns, and then the one goes on. The first presentation is the one's,
    and the successor the other's. -/
theorem racing_of_two :
    let race := trialRace Row.stored []
    let world : World AnyStore :=
      { store := .durableOf race.rows { reachable := true }
        draws := (sampleRow (Secret.ofNat 100).token "alice" (.ofLists [] [])).2 }
    let schedule := [0, 0] ++ (List.replicate 10 1 ++ List.replicate 10 0)
    let p := begin race.settings world race.jobs
    race.IsFair .durable ∧ (∀ i < 2, 10 ≤ schedule.count i) ∧
      (∀ d ∈ p.deeds schedule, d.IsFresh) ∧
        Deed.signed Deed.linking? (p.deeds schedule) = [(1, true), (0, false)] ∧
          ∃ first linker others later news, Finished race .durable (p.deeds schedule)
            (p.run schedule) first linker others later news := by
  intro race world schedule p
  have facts : race.IsFair .durable ∧ (∀ i < 2, 10 ≤ schedule.count i) ∧
      world.store.IsReady ∧ world.store.rows = race.rows ∧
        (∀ d ∈ p.deeds schedule, d.IsFresh) ∧
          Deed.signed Deed.linking? (p.deeds schedule) = [(1, true), (0, false)] := by
    decide +kernel
  obtain ⟨fair, turns, ready, rows, fresh, links⟩ := facts
  exact ⟨fair, turns, fresh, links, racing race ready rows fair nofun schedule turns fresh⟩

/-- **Another row of the identifier can take a second link**: a store in memory holds two rows of
    one identifier, and the token of the first is rotated twice. Without the second row the race
    would be fair; with it both rotations are told that their successor was linked. -/
theorem racing_limits :
    let sample := sampleRow (Secret.ofNat 100).token "alice" (.ofLists [] [])
    let race := trialRace id [{ sample.1 with hash := hashOf (Secret.ofNat 99).token }]
    let world : World AnyStore := { store := .memoryOf race.rows, draws := sample.2 }
    let schedule := List.replicate 10 0 ++ List.replicate 10 1
    let p := begin race.settings world race.jobs
    (trialRace id []).IsFair .memory ∧ (∀ i < 2, 10 ≤ schedule.count i) ∧
      world.store.IsReady ∧ (∀ d ∈ p.deeds schedule, d.IsFresh) ∧
        Deed.signed Deed.kind? (p.deeds schedule) = [(0, .first), (1, .grace)] ∧
          Deed.signed Deed.linking? (p.deeds schedule) = [(0, true), (1, true)] := by
  decide +kernel

end Pool

end TokenRotation
