import Mathlib.Data.List.Chain
import TokenRotation.Proofs.Lifecycle
import TokenRotation.Proofs.Readiness

/-!
# Honest clients

A client logs in once and rotates what it was given. It may present a token again inside the grace
window, because an answer was lost, but never presents one later than that and never one that it was
not given. Such a client is answered every time: nothing that it does is taken for theft.

* `Session.Admits`, `Session.Honest` -- what is asked of one presentation, and of all;
* `Session.Serving` -- what the table holds while the client is served;
* `Session.Serving.step` -- one presentation is answered, and the client served on;
* `Session.honest_never_lockedOut` -- **honest clients are never locked out**.
-/

namespace TokenRotation

open Store

/-! ## 1. Lineages -/

/-- The row is consumed, and the other one is its successor. -/
def Row.LeadsTo (r next : Row) : Prop := r.consumedAt.isSome ∧ r.replacedBy = some next.id

/-- Rows that lead from one to the next, the first of them with these hashes, up to a last one that
    is neither consumed nor linked. -/
structure Table.LeadsTo (earlier : Table) (hashes : List String) (last : Row) : Prop where
  hashes : earlier.map Row.hash = hashes
  chain : List.IsChain Row.LeadsTo (earlier ++ [last])
  unconsumed : last.consumedAt = none
  unlinked : last.replacedBy = none

/-- The last row is consumed and leads to a new one. -/
theorem Table.LeadsTo.concat {earlier : Table} {hashes : List String} {last last' new : Row}
    (h : earlier.LeadsTo hashes last) (hash : last'.hash = last.hash) (id : last'.id = last.id)
    (leads : last'.LeadsTo new) (pristine : new.IsPristine) :
    Table.LeadsTo (earlier ++ [last']) (hashes ++ [last.hash]) new := by
  obtain ⟨hhashes, hchain, -, -⟩ := h
  rw [List.isChain_append] at hchain
  obtain ⟨hearlier, -, hlast⟩ := hchain
  have hearlier' : List.IsChain Row.LeadsTo (earlier ++ [last']) := by
    refine List.isChain_append.mpr ⟨hearlier, List.isChain_singleton _, fun r hr next hnext => ?_⟩
    obtain rfl : last' = next := by simpa using hnext
    have hleads := hlast r hr last rfl
    exact ⟨hleads.1, id ▸ hleads.2⟩
  have hashes' : (earlier ++ [last']).map Row.hash = hashes ++ [last.hash] := by
    rw [List.map_append, hhashes, List.map_singleton, hash]
  refine ⟨hashes', ?_, pristine.1, pristine.2.2.1⟩
  refine List.isChain_append.mpr ⟨hearlier', List.isChain_singleton _, fun r hr next hnext => ?_⟩
  obtain rfl : last' = r := by simpa using hr
  obtain rfl : new = next := by simpa using hnext
  exact leads

/-- Every row but the last has a successor. -/
theorem Table.LeadsTo.isSome_replacedBy {earlier : Table} {hashes : List String} {last r : Row}
    (h : earlier.LeadsTo hashes last) (hr : r ∈ earlier) : r.replacedBy.isSome := by
  have hchain := h.chain
  obtain ⟨before, after, rfl⟩ := List.append_of_mem hr
  cases after with
  | nil =>
    rw [List.append_assoc, List.singleton_append, List.isChain_append_cons_cons] at hchain
    rw [hchain.2.1.2]
    rfl
  | cons next rest =>
    rw [List.append_assoc, List.cons_append, List.cons_append, List.isChain_append_cons_cons]
      at hchain
    rw [hchain.2.1.2]
    rfl

/-- **Only the last row of a lineage is active**, at every instant of its lifetime. -/
theorem Table.LeadsTo.filter_active {earlier : Table} {hashes : List String} {last : Row}
    (h : earlier.LeadsTo hashes last) (live : last.revokedAt = none) {u : Instant}
    (intime : u ≤ last.expiresAt) :
    (earlier ++ [last]).filter (fun r => r.status u = .active) = [last] := by
  have hlast : last.status u = .active := by
    simp [Row.status, live, Instant.not_lt.mpr intime, h.unconsumed, h.unlinked]
  have hearlier : earlier.filter (fun r => r.status u = .active) = [] := by
    rw [List.filter_eq_nil_iff]
    intro r hr
    have hlinked := h.isSome_replacedBy hr
    simp only [Row.status, hlinked, if_true, decide_eq_true_eq]
    split
    · decide
    · split <;> decide
  rw [List.filter_append, hearlier, List.nil_append]
  simp [hlast]

/-! ## 2. What is asked of the client -/

/-- A token, and the instant it is presented at. -/
structure Presentation where
  token : String
  now : Instant
deriving DecidableEq, Repr

namespace Session

/-- The step that logs a subject in, with no fault waiting. -/
def Step.opening (subject : String) (now : Instant) : Step where
  command := .work (.issue subject none)
  clock := .fixed now

end Session

/-- The step of a presentation. -/
def Presentation.step (p : Presentation) : Session.Step := .rotating p.token p.now

namespace Session

open Program Service

/-- **What is asked of a presentation** by a client that holds some tokens and has used some of
    them: it presents a token that it holds, inside the lifetime of its row, and once more only
    inside the grace window of the row. The draws are fresh and the dates are held by the
    calendar. -/
structure Admits (s : Session) (held used : List String) (p : Presentation) : Prop where
  held : p.token ∈ held
  unexpired : ∀ row ∈ s.store.rows.byHash? (hashOf p.token), p.now ≤ row.expiresAt
  intime : p.token ∈ used → ∀ row ∈ s.store.rows.byHash? (hashOf p.token),
    ∃ g ∈ row.graceExpiresAt, p.now ≤ g
  closes : p.token ∉ used → (s.settings.policy.graceExpiresAt? p.now).isSome
  expires : (s.settings.policy.expiresAt? p.now).isSome
  fresh : s.draws.IsFresh s.store.rows

instance (s : Session) (held used : List String) (p : Presentation) :
    Decidable (s.Admits held used p) :=
  decidable_of_iff (p.token ∈ held ∧
    (∀ row ∈ s.store.rows.byHash? (hashOf p.token), p.now ≤ row.expiresAt) ∧
    (p.token ∈ used → ∀ row ∈ s.store.rows.byHash? (hashOf p.token),
      ∃ g ∈ row.graceExpiresAt, p.now ≤ g) ∧
    (p.token ∉ used → (s.settings.policy.graceExpiresAt? p.now).isSome) ∧
    (s.settings.policy.expiresAt? p.now).isSome ∧ s.draws.IsFresh s.store.rows)
    ⟨fun ⟨a, b, c, d, e, f⟩ => ⟨a, b, c, d, e, f⟩, fun ⟨a, b, c, d, e, f⟩ => ⟨a, b, c, d, e, f⟩⟩

/-- Every presentation is one that is asked for; what a step returns is held from then on. -/
def Honest : Session → (held used : List String) → List Presentation → Prop
  | _, _, _, [] => True
  | s, held, used, p :: rest =>
    s.Admits held used p ∧ (s.take p.step).2.Honest
      (held ++ (returned? (s.take p.step).1.outcome).toList) (p.token :: used) rest

instance decidableHonest : (s : Session) → (held used : List String) → (ps : List Presentation) →
    Decidable (s.Honest held used ps)
  | _, _, _, [] => inferInstanceAs (Decidable True)
  | s, held, used, p :: rest =>
    have := decidableHonest (s.take p.step).2
      (held ++ (returned? (s.take p.step).1.outcome).toList) (p.token :: used) rest
    inferInstanceAs (Decidable (_ ∧ _))

/-- The tokens that some steps return. -/
def returned (s : Session) (steps : List Step) : List String :=
  (s.run steps).filterMap fun report => returned? report.outcome

/-! ## 3. What the table holds -/

end Session

/-- The row of a token that the client holds. -/
structure Row.Serves (subject : String) (family : Uuid) (used : List String) (r : Row)
    (token : String) : Prop where
  hash : r.hash = hashOf token
  subject : r.subject = subject
  family : r.family = family
  live : r.revokedAt = none
  consumed : r.consumedAt.isSome ↔ token ∈ used

/-- No row of the one table has an identifier or a hash of the other, whose rows have distinct
    ones. -/
structure Table.Apart (base members : Table) : Prop where
  ids : members.IdsDistinct
  hashes : members.HashesDistinct
  base : ∀ r ∈ base, ∀ m ∈ members, r.id ≠ m.id ∧ r.hash ≠ m.hash

theorem Table.Apart.middle {base front back : Table} {m : Row}
    (h : base.Apart (front ++ m :: back)) :
    (∀ r ∈ base ++ front, r.id ≠ m.id ∧ r.hash ≠ m.hash) ∧
      ∀ r ∈ back, r.id ≠ m.id ∧ r.hash ≠ m.hash := by
  have hids := h.ids
  have hhashes := h.hashes
  rw [IdsDistinct, List.map_append, List.map_cons, List.nodup_middle, List.nodup_cons,
    ← List.map_append] at hids
  rw [HashesDistinct, List.map_append, List.map_cons, List.nodup_middle, List.nodup_cons,
    ← List.map_append] at hhashes
  have hmembers : ∀ r ∈ front ++ back, r.id ≠ m.id ∧ r.hash ≠ m.hash := fun r hr =>
    ⟨fun heq => hids.1 (heq ▸ List.mem_map_of_mem hr),
      fun heq => hhashes.1 (heq ▸ List.mem_map_of_mem hr)⟩
  constructor
  · intro r hr
    rcases List.mem_append.mp hr with hr | hr
    · exact h.base r hr m (List.mem_append_right _ List.mem_cons_self)
    · exact hmembers r (List.mem_append_left _ hr)
  · intro r hr
    exact hmembers r (List.mem_append_right _ hr)

/-- A new row at the end of members that evolve. -/
theorem Table.Apart.concat {base members members' : Table} {new : Row} (h : base.Apart members)
    (evolves : List.Forall₂ Row.Evolves members members')
    (newId : (base ++ members).hasId new.id = false)
    (newHash : (base ++ members).hasHash new.hash = false) : base.Apart (members' ++ [new]) := by
  rw [hasId_eq_false_iff] at newId
  rw [hasHash_eq_false_iff] at newHash
  refine ⟨?_, ?_, ?_⟩
  · rw [IdsDistinct, List.map_append, map_id_of_forall₂ evolves, List.map_singleton,
      ← List.concat_eq_append, List.nodup_concat]
    refine ⟨?_, h.ids⟩
    intro hmem
    obtain ⟨m, hm, hid⟩ := List.mem_map.mp hmem
    exact newId m (List.mem_append_right _ hm) hid
  · rw [HashesDistinct, List.map_append, map_hash_of_forall₂ evolves, List.map_singleton,
      ← List.concat_eq_append, List.nodup_concat]
    refine ⟨?_, h.hashes⟩
    intro hmem
    obtain ⟨m, hm, hhash⟩ := List.mem_map.mp hmem
    exact newHash m (List.mem_append_right _ hm) hhash
  · intro r hr m' hm'
    rcases List.mem_append.mp hm' with hm' | hm'
    · obtain ⟨m, hm, hevolves⟩ := exists_mem_of_forall₂ evolves hm'
      rw [hevolves.id, hevolves.hash]
      exact h.base r hr m hm
    · obtain rfl := List.mem_singleton.mp hm'
      exact ⟨newId r (List.mem_append_left _ hr), newHash r (List.mem_append_left _ hr)⟩

/-- A row stays the row of its token, unless that is the token that is used. -/
theorem Row.Serves.used {subject : String} {family : Uuid} {used : List String} {r : Row}
    {token other : String} (h : r.Serves subject family used token) (apart : token ≠ other) :
    r.Serves subject family (other :: used) token := by
  refine ⟨h.hash, h.subject, h.family, h.live, h.consumed.trans ?_⟩
  rw [List.mem_cons]
  exact ⟨.inr, fun hmem => hmem.resolve_left apart⟩

/-- Rows that do not have the hash of a token stay the rows of theirs when it is used. -/
theorem Row.Serves.forall₂_used {subject : String} {family : Uuid} {used tokens : List String}
    {rows : Table} {token : String} (h : List.Forall₂ (Row.Serves subject family used) rows tokens)
    (apart : ∀ r ∈ rows, r.hash ≠ hashOf token) :
    List.Forall₂ (Row.Serves subject family (token :: used)) rows tokens := by
  refine ((List.forall₂_and_left _ _).mpr ⟨apart, h⟩).imp ?_
  rintro r other ⟨hne, serves⟩
  refine serves.used ?_
  rintro rfl
  exact hne serves.hash

namespace Session

open Program Service

/-- **What the table holds while the client is served**: the rows of the tokens that it holds, after
    rows of other families. -/
structure Serving (s : Session) (subject : String) (family : Uuid) (base members : Table)
    (held used : List String) : Prop where
  ready : (s.store.withFaults []).IsReady
  rows : s.store.rows = base ++ members
  serves : List.Forall₂ (Row.Serves subject family used) members held
  apart : base.Apart members
  foreign : ∀ r ∈ base, r.family ≠ family
  known : ∀ token ∈ used, token ∈ held
  named : Text.isBlank subject = false
  kept : s.store.kind = .durable → Keepable subject

namespace Serving

variable {s : Session} {subject : String} {family : Uuid} {base members front back : Table}
  {m : Row} {held used before after : List String} {token : String}

/-- A token that is held has its row at its place. -/
theorem exists_place (h : s.Serving subject family base members held used) (hheld : token ∈ held) :
    ∃ front m back before after, members = front ++ m :: back ∧ held = before ++ token :: after ∧
      front.length = before.length := by
  obtain ⟨before, after, rfl⟩ := List.append_of_mem hheld
  have htake := List.forall₂_take_append members before (token :: after) h.serves
  have hdrop := List.forall₂_drop_append members before (token :: after) h.serves
  cases heq : members.drop before.length with
  | nil =>
    rw [heq] at hdrop
    cases hdrop
  | cons m back =>
    refine ⟨members.take before.length, m, back, before, after, ?_, rfl, htake.length_eq⟩
    rw [← heq, List.take_append_drop]

/-- What there is to know about the rows at a place. -/
theorem place (h : s.Serving subject family base (front ++ m :: back) (before ++ token :: after)
    used) (length : front.length = before.length) :
    List.Forall₂ (Row.Serves subject family used) front before ∧
      m.Serves subject family used token ∧
        List.Forall₂ (Row.Serves subject family used) back after := by
  have htake := List.forall₂_take front.length h.serves
  have hdrop := List.forall₂_drop front.length h.serves
  rw [List.take_left, length, List.take_left] at htake
  rw [List.drop_left, length, List.drop_left] at hdrop
  exact ⟨htake, List.forall₂_cons.mp hdrop⟩

/-- A token is found by its hash. -/
theorem found (h : s.Serving subject family base (front ++ m :: back) (before ++ token :: after)
    used) (length : front.length = before.length) :
    s.store.rows.byHash? (hashOf token) = some m := by
  have hhash := (h.place length).2.1.hash
  have hrows : s.store.rows = (base ++ front) ++ m :: back := by rw [h.rows, List.append_assoc]
  rw [hrows]
  exact Table.byHash?_append_cons (fun r hr => hhash ▸ (h.apart.middle.1 r hr).2) hhash

/-- **What is asked for is accepted**: for the first time it stamps the row, later it changes
    nothing. -/
theorem accepted {p : Presentation}
    (h : s.Serving subject family base (front ++ m :: back) (before ++ p.token :: after) used)
    (length : front.length = before.length)
    (admits : s.Admits (before ++ p.token :: after) used p) :
    ∃ seen kind m', s.store.kind.obey s.store.rows m p.now (m.judge p.now s.settings.policy) =
        some (.accepted seen kind, (base ++ front) ++ m' :: back) ∧
      m.Evolves m' ∧ m'.consumedAt.isSome ∧ m'.revokedAt = none ∧ m'.replacedBy = m.replacedBy := by
  obtain ⟨-, serves, -⟩ := h.place length
  have hfound := h.found length
  have unexpired := admits.unexpired m hfound
  have hrows : s.store.rows = (base ++ front) ++ m :: back := by rw [h.rows, List.append_assoc]
  by_cases hused : p.token ∈ used
  · have consumed := serves.consumed.mpr hused
    have verdict : m.judge p.now s.settings.policy = .withinGrace :=
      Row.judge_eq_withinGrace_iff.mpr
        ⟨serves.live, unexpired, consumed, admits.intime hused m hfound⟩
    rw [verdict, hrows]
    exact ⟨m, .grace, m, rfl, Row.Evolves.refl m, consumed, serves.live, rfl⟩
  · have unconsumed : m.consumedAt = none := by
      rw [← Option.not_isSome_iff_eq_none, serves.consumed]
      exact hused
    obtain ⟨deadline, closes⟩ := Option.isSome_iff_exists.mp (admits.closes hused)
    have verdict : m.judge p.now s.settings.policy = .firstUse p.now deadline :=
      Row.judge_eq_firstUse_iff.mpr ⟨serves.live, unexpired, unconsumed, rfl, closes⟩
    rw [verdict, hrows, s.store.kind.obey_firstUse_append_cons h.apart.middle.1 h.apart.middle.2]
    refine ⟨_, _, _, rfl, m.evolves_stamp _ _, ?_, ?_, ?_⟩
    all_goals simp [Row.stamp, unconsumed, serves.live]

/-- **One presentation is answered**: its row is consumed from then on and has a successor, and the
    client holds one token more. -/
theorem step {p : Presentation}
    (h : s.Serving subject family base (front ++ m :: back) (before ++ p.token :: after) used)
    (length : front.length = before.length)
    (admits : s.Admits (before ++ p.token :: after) used p) :
    ∃ rotated m' new, (s.take p.step).1.outcome = .done (.rotated rotated) ∧
      rotated.subject = subject ∧ rotated.issued.family = family ∧
        m'.id = m.id ∧ m'.hash = m.hash ∧ m'.consumedAt.isSome ∧
          m'.replacedBy = m.replacedBy.or (some new.id) ∧ new.IsPristine ∧
            (s.take p.step).2.Serving subject family base (front ++ m' :: back ++ [new])
              (before ++ p.token :: after ++ [rotated.issued.token]) (p.token :: used) := by
  obtain ⟨hfront, serves, hback⟩ := h.place length
  obtain ⟨seen, kind, m', obeyed, evolves, consumed, live, linked⟩ := h.accepted length admits
  obtain ⟨expiry, expires⟩ := Option.isSome_iff_exists.mp admits.expires
  let new := s.store.kind.keepRow (drawnToken s.draws m.subject m.family p.now expiry).row
  have named : Text.isBlank m.subject = false := by
    rw [serves.subject]
    exact h.named
  have kept : s.store.kind = .durable → Keepable m.subject := by
    rw [serves.subject]
    exact h.kept
  obtain ⟨houtcome, ready, hkind, hafter, -⟩ :=
    take_rotating h.ready (h.found length) obeyed named kept expires admits.fresh
  rw [show Step.rotating p.token p.now = p.step from rfl] at houtcome ready hkind hafter
  -- the successor stands at the end, and is linked to the row alone
  have hid : new.id = s.draws.uuid.1 := s.store.kind.keepRow_id _
  have hhash : new.hash = hashOf s.draws.secret.1.token := s.store.kind.keepRow_hash _
  have hfamily : new.family = m.family := s.store.kind.keepRow_family _
  have hsubject : new.subject = m.subject := s.store.kind.keepRow_subject _
  have pristine : new.IsPristine := s.store.kind.isPristine_keepRow _
  have newId : (base ++ (front ++ m :: back)).hasId new.id = false := by
    rw [hid, ← h.rows]
    exact admits.fresh.2
  have newHash : (base ++ (front ++ m :: back)).hasHash new.hash = false := by
    rw [hhash, ← h.rows]
    exact admits.fresh.1
  have unlinked {r : Row} (hr : r.id ≠ m.id) : Row.unlinked m'.id r = false := by
    simp [Row.unlinked, evolves.id, hr]
  have newApart : new.id ≠ m.id := fun heq =>
    Table.hasId_eq_false_iff.mp newId m (by simp) heq.symm
  have hrotated : rotated s.store.kind m.id new ((base ++ front) ++ m' :: back) =
      (base ++ front) ++ m'.succeededBy new.id :: (back ++ [new]) := by
    rw [rotated, List.append_assoc, List.cons_append, ← evolves.id]
    refine s.store.kind.link_append_cons (fun r hr => unlinked (h.apart.middle.1 r hr).1) ?_
    intro r hr
    rcases List.mem_append.mp hr with hr | hr
    · exact unlinked (h.apart.middle.2 r hr).1
    · exact unlinked (List.mem_singleton.mp hr ▸ newApart)
  have evolves' : m.Evolves (m'.succeededBy new.id) := evolves.trans (m'.evolves_succeededBy new.id)
  have unused : s.draws.secret.1.token ∉ p.token :: used := by
    intro hmem
    have hheld : s.draws.secret.1.token ∈ before ++ p.token :: after := by
      rcases List.mem_cons.mp hmem with heq | hmem
      · rw [heq]
        exact List.mem_append_right _ List.mem_cons_self
      · exact h.known _ hmem
    obtain ⟨_, r, _, _, _, hmembers, hsplit, hlength⟩ := h.exists_place hheld
    rw [hmembers, hsplit] at h
    have hr := (h.place hlength).2.1.hash
    refine Table.hasHash_eq_false_iff.mp newHash r ?_ (hr.trans hhash.symm)
    rw [hmembers]
    simp
  have hnew : new.Serves subject family (p.token :: used) s.draws.secret.1.token := by
    refine ⟨hhash, hsubject.trans serves.subject, hfamily.trans serves.family, pristine.2.2.2, ?_⟩
    simp [pristine.1, unused]
  refine ⟨_, m'.succeededBy new.id, new, houtcome, serves.subject, hfamily.trans serves.family,
    evolves'.id, evolves'.hash, consumed, ?_, pristine, ?_⟩
  · rw [Row.succeededBy, linked]
  refine ⟨ready.withFaults_nil, ?_, ?_, ?_, h.foreign, ?_, h.named, ?_⟩
  · rw [hafter, hrotated]
    simp
  · refine List.rel_append (List.rel_append ?_ (.cons ?_ ?_)) (.cons hnew .nil)
    · exact Row.Serves.forall₂_used hfront fun r hr => serves.hash ▸
        (h.apart.middle.1 r (List.mem_append_right _ hr)).2
    · refine ⟨evolves'.hash.trans serves.hash, evolves'.subject.trans serves.subject,
        evolves'.family.trans serves.family, live, ?_⟩
      exact ⟨fun _ => List.mem_cons_self, fun _ => consumed⟩
    · exact Row.Serves.forall₂_used hback fun r hr => serves.hash ▸ (h.apart.middle.2 r hr).2
  · refine h.apart.concat ?_ newId newHash
    exact List.rel_append (List.forall₂_same.mpr fun r _ => Row.Evolves.refl r)
      (.cons evolves' (List.forall₂_same.mpr fun r _ => Row.Evolves.refl r))
  · intro token htoken
    rcases List.mem_cons.mp htoken with rfl | htoken
    · simp
    · exact List.mem_append_left _ (h.known token htoken)
  · rw [hkind]
    exact h.kept

/-! ## 4. Runs -/

/-- The reports of a step that is done, and of the rest. -/
theorem run_cons_of_done {s : Session} {step : Step} {value : Value} (rest : List Step)
    (done : (s.take step).1.outcome = .done value) :
    s.run (step :: rest) = (s.take step).1 :: (s.take step).2.run rest := by
  have unbroken : (s.take step).1.outcome.isAborted = false := by rw [done]; rfl
  simp only [run, unbroken]
  rfl

/-- **An honest client is answered every time**, and served on. -/
theorem run (h : s.Serving subject family base members held used) {ps : List Presentation}
    (honest : s.Honest held used ps) :
    (s.run (ps.map Presentation.step)).length = ps.length ∧
      (∀ report ∈ s.run (ps.map Presentation.step), ∃ rotated,
        report.outcome = .done (.rotated rotated) ∧ rotated.subject = subject ∧
          rotated.issued.family = family) ∧
        ∃ members' held' used', members'.length = members.length + ps.length ∧
          (s.after (ps.map Presentation.step)).Serving subject family base members' held'
            used' := by
  induction ps generalizing s members held used with
  | nil =>
    refine ⟨rfl, fun report hreport => ?_, members, held, used, rfl, h⟩
    cases hreport
  | cons p ps ih =>
    obtain ⟨admits, honest⟩ := honest
    obtain ⟨front, m, back, before, after, rfl, rfl, length⟩ := h.exists_place admits.held
    obtain ⟨rotated, m', new, houtcome, hsubject, hfamily, -, -, -, -, -, hserving⟩ :=
      h.step length admits
    rw [houtcome] at honest
    obtain ⟨hlength, hreports, members', held', used', hmembers, hafter⟩ := ih hserving honest
    rw [List.map_cons, run_cons_of_done _ houtcome]
    refine ⟨?_, ?_, members', held', used', ?_, hafter⟩
    · rw [List.length_cons, hlength, List.length_cons]
    · intro report hreport
      rcases List.mem_cons.mp hreport with rfl | hreport
      · exact ⟨rotated, houtcome, hsubject, hfamily⟩
      · exact hreports report hreport
    · simp only [List.length_append, List.length_cons, List.length_nil] at hmembers ⊢
      omega

/-- **Presenting what was returned last makes a lineage.** -/
theorem lineage {earlier : Table} {last : Row} {tokens : List String}
    (h : s.Serving subject family base (earlier ++ [last]) (tokens ++ [token]) used)
    (leads : earlier.LeadsTo (tokens.map hashOf) last) {ps : List Presentation}
    (honest : s.Honest (tokens ++ [token]) used ps)
    (chained : ps.map Presentation.token <+:
      token :: s.returned (ps.map Presentation.step)) :
    ∃ earlier' last' held' used',
      (s.after (ps.map Presentation.step)).Serving subject family base (earlier' ++ [last']) held'
        used' ∧
      Table.LeadsTo earlier' ((tokens ++ ps.map Presentation.token).map hashOf) last' := by
  induction ps generalizing s earlier last tokens token used with
  | nil =>
    refine ⟨earlier, last, _, _, h, ?_⟩
    rwa [List.map_nil, List.append_nil]
  | cons p ps ih =>
    obtain ⟨admits, honest⟩ := honest
    rw [List.map_cons, List.cons_prefix_cons] at chained
    obtain ⟨rfl, chained⟩ := chained
    have length : earlier.length = tokens.length := by
      have hlength := h.serves.length_eq
      simp only [List.length_append, List.length_cons, List.length_nil] at hlength
      omega
    obtain ⟨rotated, last', new, houtcome, -, -, hid, hhash, consumed, linked, pristine,
      hserving⟩ := h.step length admits
    have hlast : last.hash = hashOf p.token := (h.place length).2.1.hash
    rw [leads.unlinked] at linked
    have leads' := leads.concat hhash hid ⟨consumed, linked⟩ pristine
    rw [hlast, ← List.map_singleton, ← List.map_append] at leads'
    rw [houtcome] at honest
    rw [returned, List.map_cons, run_cons_of_done _ houtcome, List.filterMap_cons, houtcome]
      at chained
    obtain ⟨earlier', last'', held', used', hafter, hleads⟩ := ih hserving leads' honest chained
    refine ⟨earlier', last'', held', used', hafter, ?_⟩
    rwa [List.append_assoc, List.singleton_append] at hleads

theorem exists_serves {r : Row} (h : s.Serving subject family base members held used)
    (hr : r ∈ members) : ∃ token, r.Serves subject family used token := by
  obtain ⟨i, hi, rfl⟩ := List.getElem_of_mem hr
  have hi' : i < held.length := h.serves.length_eq ▸ hi
  exact ⟨held[i], h.serves.get hi hi'⟩

/-- The rows of its family are the rows of the tokens that the client was given. -/
theorem familyRows (h : s.Serving subject family base members held used) :
    s.store.rows.familyRows family = members := by
  have hbase : base.filter (fun r => r.family = family) = [] := by
    rw [List.filter_eq_nil_iff]
    intro r hr
    simpa using h.foreign r hr
  have hmembers : members.filter (fun r => r.family = family) = members := by
    rw [List.filter_eq_self]
    intro r hr
    obtain ⟨token, hserves⟩ := h.exists_serves hr
    simpa using hserves.family
  rw [h.rows, Table.familyRows, List.filter_append, hbase, hmembers, List.nil_append]

/-- Only the rows of other families can be revoked. -/
theorem map_revokedAt (h : s.Serving subject family base members held used) :
    s.store.rows.map Row.revokedAt =
      base.map Row.revokedAt ++ List.replicate members.length none := by
  have hmembers : members.map Row.revokedAt = List.replicate members.length none := by
    rw [List.eq_replicate_iff, List.length_map]
    refine ⟨rfl, fun revokedAt hmem => ?_⟩
    obtain ⟨r, hr, rfl⟩ := List.mem_map.mp hmem
    obtain ⟨token, hserves⟩ := h.exists_serves hr
    exact hserves.live
  rw [h.rows, List.map_append, hmembers]

end Serving

/-- **A login begins a family** with one row. -/
theorem serving_of_opening {s : Session} {subject : String} {start expiry : Instant}
    (ready : (s.store.withFaults []).IsReady) (named : Text.isBlank subject = false)
    (kept : s.store.kind = .durable → Keepable subject)
    (expires : s.settings.policy.expiresAt? start = some expiry)
    (unused : ∀ r ∈ s.store.rows, r.family ≠ s.draws.uuid.1)
    (fresh : s.draws.uuid.2.IsFresh s.store.rows) :
    ∃ issued new, (s.take (.opening subject start)).1.outcome = .done (.issued issued) ∧
      issued.family = s.draws.uuid.1 ∧ new.IsPristine ∧
        (s.take (.opening subject start)).2.Serving subject issued.family s.store.rows [new]
          [issued.token] [] := by
  let new := s.store.kind.keepRow
    (drawnToken s.draws.uuid.2 subject s.draws.uuid.1 start expiry).row
  have hgoes : (Work.program s.settings (.fixed start) (.issue subject none)).Goes s.store.kind
      s.store.rows s.draws (.issued (issuedFor s.draws.uuid.2 new)) (s.store.rows ++ [new])
      s.draws.uuid.2.secret.2.uuid.2 :=
    goes_now_bind (Clock.now_fixed start)
      (goes_bind (login_goes named kept expires fresh) (goes_pure _))
  have hready : (s.world (.opening subject start)).store.IsReady := ready
  obtain ⟨houtcome, ready', hkind, hafter, -⟩ := take_of_goes hready rfl hgoes
  have hid : new.id = s.draws.uuid.2.uuid.1 := s.store.kind.keepRow_id _
  have hhash : new.hash = hashOf s.draws.uuid.2.secret.1.token := s.store.kind.keepRow_hash _
  have hfamily : new.family = s.draws.uuid.1 := s.store.kind.keepRow_family _
  have hsubject : new.subject = subject := s.store.kind.keepRow_subject _
  have pristine : new.IsPristine := s.store.kind.isPristine_keepRow _
  refine ⟨_, new, houtcome, hfamily, pristine, ready'.withFaults_nil, hafter, .cons ?_ .nil, ?_, ?_,
    nofun, named, ?_⟩
  · refine ⟨hhash, hsubject, rfl, pristine.2.2.2, ?_⟩
    rw [pristine.1]
    exact ⟨nofun, nofun⟩
  · refine ⟨List.nodup_singleton _, List.nodup_singleton _, fun r hr m hm => ?_⟩
    rw [List.mem_singleton.mp hm, hid, hhash]
    exact ⟨Table.hasId_eq_false_iff.mp fresh.2 r hr, Table.hasHash_eq_false_iff.mp fresh.1 r hr⟩
  · intro r hr
    exact fun heq => unused r hr (heq.trans hfamily)
  · rw [hkind]
    exact kept

/-- **Honest clients are never locked out**, on a store of either kind and after whatever its table
    holds. A login to a fresh family goes through. Every rotation goes through after it of a token
    that was returned and not presented yet, inside its lifetime, or of one that was presented
    already, inside its grace window; it returns the subject and the family of the login, and no row
    is revoked. If each rotation presents what the one before it returned, the family is a lineage:
    the rows lead from one to the next, and only the last is active. -/
theorem honest_never_lockedOut (s : Session) {subject : String} {start : Instant}
    (ready : (s.store.withFaults []).IsReady) (named : Text.isBlank subject = false)
    (kept : s.store.kind = .durable → Keepable subject)
    (expires : (s.settings.policy.expiresAt? start).isSome)
    (unused : ∀ r ∈ s.store.rows, r.family ≠ s.draws.uuid.1)
    (fresh : s.draws.uuid.2.IsFresh s.store.rows) :
    let login := s.take (.opening subject start)
    ∃ issued, login.1.outcome = .done (.issued issued) ∧ issued.family = s.draws.uuid.1 ∧
      ∀ ps, login.2.Honest [issued.token] [] ps →
        let steps := ps.map Presentation.step
        let later := login.2.after steps
        (login.2.run steps).length = ps.length ∧
          (∀ report ∈ login.2.run steps, ∃ rotated, report.outcome = .done (.rotated rotated) ∧
            rotated.subject = subject ∧ rotated.issued.family = issued.family) ∧
          later.store.rows.map Row.revokedAt =
            s.store.rows.map Row.revokedAt ++ List.replicate (ps.length + 1) none ∧
          (ps.map Presentation.token <+: issued.token :: login.2.returned steps →
            ∃ earlier last, later.store.rows.familyRows issued.family = earlier ++ [last] ∧
              earlier.length = ps.length ∧
              Table.LeadsTo earlier (ps.map fun p => hashOf p.token) last ∧
                ∀ u, u ≤ last.expiresAt →
                  (later.store.rows.familyRows issued.family).filter
                    (fun r => r.status u = .active) = [last]) := by
  intro login
  obtain ⟨expiry, hexpiry⟩ := Option.isSome_iff_exists.mp expires
  obtain ⟨issued, new, houtcome, hfamily, pristine, hserving⟩ :=
    serving_of_opening ready named kept hexpiry unused fresh
  refine ⟨issued, houtcome, hfamily, fun ps honest => ?_⟩
  intro steps later
  obtain ⟨hlength, hreports, members, held, used, hmembers, hlater⟩ := hserving.run honest
  refine ⟨hlength, hreports, ?_, fun chained => ?_⟩
  · rw [hlater.map_revokedAt, hmembers, List.length_singleton, Nat.add_comm]
  · have leads : Table.LeadsTo [] (([] : List String).map hashOf) new :=
      ⟨rfl, List.isChain_singleton _, pristine.1, pristine.2.2.1⟩
    obtain ⟨earlier, last, held', used', hafter, hleads⟩ :=
      Serving.lineage hserving leads honest chained
    rw [List.nil_append, List.map_map] at hleads
    have hrows : later.store.rows.familyRows issued.family = earlier ++ [last] := hafter.familyRows
    obtain ⟨token, hlast⟩ := hafter.exists_serves (List.mem_append_right _ List.mem_cons_self)
    refine ⟨earlier, last, hrows, ?_, hleads, fun u intime => ?_⟩
    · have heq := congrArg List.length hleads.hashes
      rwa [List.length_map, List.length_map] at heq
    · rw [hrows]
      exact hleads.filter_active hlast.live intime

/-- A client of a database that holds a row already logs in, rotates its token, loses the answer and
    rotates the token again. Another one rotates twice what it was given last. -/
theorem honest_never_lockedOut_of_lostAnswer :
    let sample := sampleRow (Secret.ofNat 100).token "bob" (.ofLists [] [])
    let s : Session := { store := .durableOf [sample.1] { reachable := true }, draws := sample.2
                         settings := .trial .default }
    let later (seconds : Int) : Instant :=
      ⟨sampleInstant.nanos + (Duration.ofSeconds seconds).nanos⟩
    let login := s.take (.opening "alice" (later 0))
    let lost : List Presentation :=
      [⟨(Secret.ofNat 1).token, later 5⟩, ⟨(Secret.ofNat 1).token, later 7⟩]
    let straight : List Presentation :=
      [⟨(Secret.ofNat 1).token, later 5⟩, ⟨(Secret.ofNat 2).token, later 40⟩]
    login.2.Honest [(Secret.ofNat 1).token] [] lost ∧
      login.2.Honest [(Secret.ofNat 1).token] [] straight ∧
        (login.2.run (lost.map Presentation.step)).length = 2 ∧
          ∃ earlier last, earlier.length = 2 ∧ Table.familyRows
            (login.2.after (straight.map Presentation.step)).store.rows s.draws.uuid.1 =
              earlier ++ [last] := by
  intro sample s later login lost straight
  have facts : ((s.store.withFaults []).IsReady ∧ Text.isBlank "alice" = false ∧
      Keepable "alice" ∧ (s.settings.policy.expiresAt? (later 0)).isSome ∧
        (∀ r ∈ s.store.rows, r.family ≠ s.draws.uuid.1) ∧
          s.draws.uuid.2.IsFresh s.store.rows) ∧
      returned? login.1.outcome = some (Secret.ofNat 1).token ∧
        login.2.Honest [(Secret.ofNat 1).token] [] lost ∧
          login.2.Honest [(Secret.ofNat 1).token] [] straight ∧
            straight.map Presentation.token <+:
              (Secret.ofNat 1).token :: login.2.returned (straight.map Presentation.step) := by
    decide +kernel
  have hlogin : s.take (.opening "alice" (later 0)) = login := rfl
  have two : lost.length = 2 ∧ straight.length = 2 := ⟨rfl, rfl⟩
  -- from here on, what the login comes to is a matter of the facts
  clear_value login lost straight later s
  obtain ⟨⟨ready, named, kept, expires, unused, fresh⟩, hreturned, hlost, hstraight, chained⟩ :=
    facts
  obtain ⟨issued, hdone, hfamily, answered⟩ :=
    honest_never_lockedOut s ready named (fun _ => kept) expires unused fresh
  rw [hlogin] at hdone answered
  rw [hdone] at hreturned
  have htoken : issued.token = (Secret.ofNat 1).token := Option.some.inj hreturned
  rw [htoken, hfamily] at answered
  obtain ⟨-, -, -, lineage⟩ := answered straight hstraight
  obtain ⟨earlier, last, hrows, hlength, -⟩ := lineage chained
  exact ⟨hlost, hstraight, (answered lost hlost).1.trans two.1, earlier, last,
    hlength.trans two.2, hrows⟩

end Session

end TokenRotation
