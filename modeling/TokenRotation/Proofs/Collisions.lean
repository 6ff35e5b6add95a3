import Mathlib.Data.Nat.Find
import TokenRotation.Proofs.Calm

/-!
# Collisions

An insertion ends in a collision when the hash of the fresh token is taken, and also when a
collision was asked for in advance, whatever the hash. The issuer cannot tell the two apart: it logs
the collision, draws a new secret and a new identifier, and tries again, three times in all. So what
an issue comes to is decided by the first try that neither of the two stands in the way of. Of the
tries before it nothing remains but the draws and the entries in the log.

* `Service.Grants` -- the try that comes so many draws from now is granted;
* `Service.run_issueWithin_succ` -- one try, to the cell;
* `Service.run_issueWithin_collided` -- the tries before the one that decides, by induction on them;
* `Session.issuesAtFirstGrant` -- **an issue is decided by the first try that is granted**, on a
  store of either kind without faults.
-/

namespace TokenRotation

open Store

/-! ## 1. Draws ahead -/

namespace Draws

/-- The secret that comes so many draws from now. -/
def secretAhead (d : Draws) (k : Nat) : Secret := d.secretAt (d.secretsDrawn + k)

/-- The identifier that comes so many draws from now. -/
def uuidAhead (d : Draws) (k : Nat) : Uuid := Uuid.random (d.chanceAt (d.uuidsDrawn + k))

/-- The draws when so many secrets and identifiers more are drawn. -/
def past (d : Draws) (secrets uuids : Nat) : Draws :=
  { d with secretsDrawn := d.secretsDrawn + secrets, uuidsDrawn := d.uuidsDrawn + uuids }

variable {d : Draws} {m n k : Nat}

@[simp] theorem past_zero : d.past 0 0 = d := rfl

@[simp] theorem past_past {m' n' : Nat} : (d.past m n).past m' n' = d.past (m + m') (n + n') := by
  simp only [past, Nat.add_assoc]

@[simp] theorem secretAhead_past : (d.past m n).secretAhead k = d.secretAhead (m + k) := by
  simp only [secretAhead, past, Nat.add_assoc]

@[simp] theorem uuidAhead_past : (d.past m n).uuidAhead k = d.uuidAhead (n + k) := by
  simp only [uuidAhead, past, Nat.add_assoc]

end Draws

/-! ## 2. One insertion -/

/-- An insertion that breaks no other rule of its table collides, or adds its row. -/
theorem CalmStore.perform_insert (s : CalmStore) (token : NewToken)
    (kept : s.kind = .durable → Keepable token.subject ∧ Keepable token.hash)
    (whole : token.hash.length = 64)
    (fresh : s.kind = .durable → s.rows.hasId token.id = false) :
    s.perform (.insert token) =
      if s.due = 0 ∧ s.rows.hasHash token.hash = false then
        { outcome := .done (s.kind.keepRow token.row)
          store := { s with rows := s.rows ++ [s.kind.keepRow token.row] } }
      else { outcome := .failed .hashCollision, store := { s with due := s.due - 1 } } := by
  obtain ⟨kind, rows, server, due⟩ := s
  cases due with
  | succ due => simp [perform]
  | zero =>
    have keepable : kind = .durable → ∀ text ∈ (StoreCall.insert token).texts, Keepable text := by
      intro durable text htext
      rcases List.mem_pair.mp htext with rfl | rfl
      · exact (kept durable).1
      · exact (kept durable).2
    have unknown : ¬ (kind = .durable ∧ rows.hasId token.id = true) := by
      rintro ⟨durable, known⟩
      rw [fresh durable] at known
      cases known
    change respond _ _ = _
    rw [respond_of_keepable keepable]
    simp only [StoreKind.undertake, if_neg (not_and_of_not_right _ (not_not_intro whole)),
      if_neg unknown]
    by_cases taken : rows.hasHash token.hash <;> simp [taken]

/-- A program that handles the failure of a call goes on with whatever the call comes to. -/
theorem Program.run_tryStore_bind {α : Type} (w : World CalmStore) {call : StoreCall}
    {f : Except Failure call.Answer → Program α} {outcome : Outcome call.Answer} {store : CalmStore}
    (performed : w.store.perform call = { outcome, store }) :
    (tryStore call >>= f).run w =
      match outcome with
      | .done answer => (f (.ok answer)).run { w with store }
      | .failed failure => (f (.error failure)).run { w with store }
      | .aborted cause => (.aborted cause, { w with store }) := by
  have hperform : TokenStore.perform w.store call = { outcome, store } := performed
  rw [run_bind]
  cases outcome <;> simp only [tryStore, run, answer, hperform, List.append_nil, run_pure]

/-! ## 3. Tries -/

namespace Service

open Program

/-- **The try that comes so many draws from now is granted**: by then no collision is due, and the
    hash of its token is not taken. -/
def Grants (w : World CalmStore) (k : Nat) : Prop :=
  w.store.due < k ∧ w.store.rows.hasHash (hashOf (w.draws.secretAhead k).token) = false

instance (w : World CalmStore) (k : Nat) : Decidable (Grants w k) :=
  inferInstanceAs (Decidable (_ ∧ _))

/-- What is left of so many tries that collided, the first of them with the number `number`. -/
def collided (w : World CalmStore) (tries number : Nat) : World CalmStore where
  store := { w.store with due := w.store.due - tries }
  draws := w.draws.past tries tries
  log := w.log ++ (List.range' number tries).map .issueCollided

theorem collided_zero (w : World CalmStore) (number : Nat) : collided w 0 number = w := by
  simp [collided]

theorem collided_succ (w : World CalmStore) (tries number : Nat) :
    collided (collided w tries number) 1 (number + tries) = collided w (tries + 1) number := by
  simp only [collided, Draws.past_past, Nat.sub_sub, List.range'_1_concat, List.map_append,
    List.append_assoc]
  rfl

theorem grants_collided_iff {w : World CalmStore} {tries number : Nat} :
    Grants (collided w tries number) 1 ↔ Grants w (tries + 1) := by
  simp only [Grants, collided, Draws.secretAhead_past]
  refine and_congr_left fun _ => ?_
  omega

/-- What an issue has decided about its row before it tries. -/
structure Order where
  subject : String
  family : Uuid
  now : Instant
  expiresAt : Instant

/-- The row that the try that comes so many draws from now adds, if it is granted. -/
def Order.row (order : Order) (w : World CalmStore) (k : Nat) : Row :=
  w.store.kind.keepRow
    (newToken order.subject order.family order.now order.expiresAt (w.draws.secretAhead k)
      (w.draws.uuidAhead k)).row

theorem Order.row_eq (order : Order) (w : World CalmStore) (k : Nat) :
    order.row w k =
      { id := w.draws.uuidAhead k
        subject := order.subject
        family := order.family
        hash := hashOf (w.draws.secretAhead k).token
        createdAt := w.store.kind.keep order.now
        expiresAt := w.store.kind.keep order.expiresAt } := by
  unfold Order.row
  cases w.store.kind <;> rfl

/-- What the caller is given for it. -/
def Order.token (order : Order) (w : World CalmStore) (k : Nat) : IssuedToken where
  token := (w.draws.secretAhead k).token
  id := (order.row w k).id
  family := (order.row w k).family
  expiresAt := (order.row w k).expiresAt

/-- What is left when it is granted. -/
def Order.granted (order : Order) (w : World CalmStore) (k : Nat) : World CalmStore where
  store := { w.store with rows := w.store.rows ++ [order.row w k] }
  draws := w.draws.past k k
  log := w.log ++ [.issued (order.row w k).family (order.row w k).id]

/-- A store of the kind can take the rows of the tries that come: a database keeps the subject, and
    none of its rows has an identifier that is drawn for them. -/
structure Order.Fits (order : Order) (w : World CalmStore) (tries : Nat) : Prop where
  subject : w.store.kind = .durable → Keepable order.subject
  ids : w.store.kind = .durable →
    ∀ k, 1 ≤ k → k ≤ tries → w.store.rows.hasId (w.draws.uuidAhead k) = false

theorem Order.Fits.collided {order : Order} {w : World CalmStore} {tries more number : Nat}
    (h : order.Fits w (tries + more)) : order.Fits (collided w tries number) more where
  subject := h.subject
  ids durable k hk hmore := by
    have hfresh := h.ids durable (tries + k) (by omega) (by omega)
    simpa [Service.collided] using hfresh

variable {policy : Policy} {order : Order} {w : World CalmStore} {left number : Nat}

/-- **One try** adds its row, or leaves what is left of a collision to the next. -/
theorem run_issueWithin_succ (expires : policy.expiresAt? order.now = some order.expiresAt)
    (fits : order.Fits w 1) :
    (issueWithin policy order.subject order.family order.now (left + 1) number).run w =
      if Grants w 1 then (.done (order.token w 1), order.granted w 1)
      else (issueWithin policy order.subject order.family order.now left (number + 1)).run
        (collided w 1 number) := by
  have hinsert := w.store.perform_insert
    (newToken order.subject order.family order.now order.expiresAt (w.draws.secretAhead 1)
      (w.draws.uuidAhead 1))
    (fun durable => ⟨fits.subject durable, nul_not_mem_hashOf _⟩) (length_hashOf _)
    (fun durable => fits.ids durable 1 (Nat.le_refl 1) (Nat.le_refl 1))
  rw [issueWithin, expires]
  -- the two draws and the expiry come before the call, and none of them can fail
  let drawn : World CalmStore := { w with draws := w.draws.past 1 1 }
  change (tryStore (.insert (newToken order.subject order.family order.now order.expiresAt
    (w.draws.secretAhead 1) (w.draws.uuidAhead 1))) >>= _).run drawn = _
  by_cases grants : Grants w 1
  · rw [if_pos ⟨Nat.lt_one_iff.mp grants.1, grants.2⟩] at hinsert
    rw [if_pos grants, run_tryStore_bind drawn hinsert]
    rfl
  · rw [if_neg fun h => grants ⟨Nat.lt_one_iff.mpr h.1, h.2⟩] at hinsert
    rw [if_neg grants, run_tryStore_bind drawn hinsert]
    rfl

/-- **Tries that collided** leave the rest to the tries that are left. -/
theorem run_issueWithin_collided {tries : Nat} (enough : tries ≤ left)
    (expires : policy.expiresAt? order.now = some order.expiresAt) (fits : order.Fits w tries)
    (collide : ∀ k, 1 ≤ k → k ≤ tries → ¬ Grants w k) :
    (issueWithin policy order.subject order.family order.now left number).run w =
      (issueWithin policy order.subject order.family order.now (left - tries)
        (number + tries)).run (collided w tries number) := by
  induction tries with
  | zero => rw [collided_zero, Nat.sub_zero, Nat.add_zero]
  | succ tries ih =>
    have hleft : left - tries = left - (tries + 1) + 1 := by omega
    have hcollides : ¬ Grants (collided w tries number) 1 := fun h =>
      collide (tries + 1) (by omega) (Nat.le_refl _) (grants_collided_iff.mp h)
    rw [ih (by omega) ⟨fits.subject, fun durable k hk hle => fits.ids durable k hk (by omega)⟩
      fun k hk hle => collide k hk (by omega), hleft,
      run_issueWithin_succ expires fits.collided, if_neg hcollides, collided_succ, Nat.add_assoc]

theorem row_collided {tries : Nat} (order : Order) (w : World CalmStore) (number : Nat) :
    order.row (collided w tries number) 1 = order.row w (tries + 1) := by
  simp only [Order.row, collided, Draws.secretAhead_past, Draws.uuidAhead_past]

theorem token_collided {tries : Nat} (order : Order) (w : World CalmStore) (number : Nat) :
    order.token (collided w tries number) 1 = order.token w (tries + 1) := by
  simp only [Order.token, row_collided]
  simp only [collided, Draws.secretAhead_past]

/-- **The first try that is granted** ends the issue. -/
theorem run_issueWithin_granted {tries : Nat} (enough : tries < left)
    (expires : policy.expiresAt? order.now = some order.expiresAt)
    (fits : order.Fits w (tries + 1)) (grants : Grants w (tries + 1))
    (collide : ∀ k, 1 ≤ k → k ≤ tries → ¬ Grants w k) :
    (issueWithin policy order.subject order.family order.now left number).run w =
      (.done (order.token w (tries + 1)), order.granted (collided w tries number) 1) := by
  have hleft : left - tries = left - tries - 1 + 1 := by omega
  have hgrants : Grants (collided w tries number) 1 := grants_collided_iff.mpr grants
  rw [run_issueWithin_collided (Nat.le_of_lt enough) expires
    ⟨fits.subject, fun durable k hk hle => fits.ids durable k hk (by omega)⟩ collide, hleft,
    run_issueWithin_succ expires fits.collided, if_pos hgrants, token_collided]

/-- **When no try is granted**, the last collision is what the caller is told of. -/
theorem run_issueWithin_exhausted
    (expires : policy.expiresAt? order.now = some order.expiresAt) (fits : order.Fits w left)
    (collide : ∀ k, 1 ≤ k → k ≤ left → ¬ Grants w k) :
    (issueWithin policy order.subject order.family order.now left number).run w =
      (.failed .hashCollision, collided w left number) := by
  rw [run_issueWithin_collided (Nat.le_refl left) expires fits collide, Nat.sub_self, issueWithin]
  rfl

end Service

/-! ## 4. Issues -/

namespace Session

open Program Service

/-- How many identifiers are drawn for the family of an issue. -/
def familyDraws : Option Uuid → Nat
  | some _ => 0
  | none => 1

/-- The family of an issue: the given one, or the next that is drawn. -/
def familyFor (s : Session) : Option Uuid → Uuid
  | some family => family
  | none => s.draws.uuidAhead 1

/-- An issue at an instant, with no fault waiting. -/
def issuing (s : Session) (subject : String) (family? : Option Uuid) (now : Instant) :
    Report × Session :=
  s.take (.doing (.issue subject family?) now)

/-- **What an issue leaves that the `k`-th try ended**: the row of that try and no other, the token
    that it drew, and an entry for the operation and for each try before it. -/
structure IssuedBy (s : Session) (subject : String) (family? : Option Uuid) (now expiry : Instant)
    (k : Nat) : Prop where
  outcome : (s.issuing subject family? now).1.outcome =
    .done (.issued
      { token := (s.draws.secretAhead k).token
        id := s.draws.uuidAhead (familyDraws family? + k)
        family := s.familyFor family?
        expiresAt := s.store.kind.keep expiry })
  rows : (s.issuing subject family? now).2.store.rows = s.store.rows ++
    [{ id := s.draws.uuidAhead (familyDraws family? + k)
       subject
       family := s.familyFor family?
       hash := hashOf (s.draws.secretAhead k).token
       createdAt := s.store.kind.keep now
       expiresAt := s.store.kind.keep expiry
       consumedAt := none
       graceExpiresAt := none
       replacedBy := none
       revokedAt := none }]
  draws : (s.issuing subject family? now).2.draws = s.draws.past k (familyDraws family? + k)
  log : (s.issuing subject family? now).1.log =
    .entered (.issue family? now) :: (List.range' 1 (k - 1)).map .issueCollided ++
      [.issued (s.familyFor family?) (s.draws.uuidAhead (familyDraws family? + k))]
  due : (s.issuing subject family? now).2.store.calm.due = 0

/-- **What an issue comes to.** -/
structure IssuesAtFirstGrant (s : Session) (subject : String) (family? : Option Uuid)
    (now expiry : Instant) : Prop where
  /-- A blank subject is turned away before anything is drawn. -/
  blank : (∀ c ∈ subject.toList, Text.isWhiteSpace c) →
    (s.issuing subject family? now).1.outcome =
        .failed (.invalidInput "Subject must not be empty") ∧
      (s.issuing subject family? now).1.log = [.entered (.issue family? now)] ∧
      (s.issuing subject family? now).2.draws = s.draws ∧
      (s.issuing subject family? now).2.store.rows = s.store.rows ∧
      (s.issuing subject family? now).2.store.calm.due = s.store.calm.due
  /-- Any other subject is issued a token if one of three tries is granted, and only then. -/
  succeeds : (∃ c ∈ subject.toList, ¬ Text.isWhiteSpace c) →
    ((∃ value, (s.issuing subject family? now).1.outcome = .done value) ↔
      ∃ k, 1 ≤ k ∧ k ≤ 3 ∧ Grants s.calm k)
  /-- The first of them that is granted decides. -/
  granted : (∃ c ∈ subject.toList, ¬ Text.isWhiteSpace c) →
    ∀ k, 1 ≤ k → k ≤ 3 → Grants s.calm k → (∀ j, 1 ≤ j → j < k → ¬ Grants s.calm j) →
      s.IssuedBy subject family? now expiry k
  /-- If none is, three tries are drawn and logged, and the table is as it was. -/
  exhausted : (∃ c ∈ subject.toList, ¬ Text.isWhiteSpace c) →
    (∀ k, 1 ≤ k → k ≤ 3 → ¬ Grants s.calm k) →
      (s.issuing subject family? now).1.outcome = .failed .hashCollision ∧
        (s.issuing subject family? now).1.log =
          .entered (.issue family? now) :: [1, 2, 3].map .issueCollided ∧
        (s.issuing subject family? now).2.draws = s.draws.past 3 (familyDraws family? + 3) ∧
        (s.issuing subject family? now).2.store.rows = s.store.rows ∧
        (s.issuing subject family? now).2.store.calm.due = s.store.calm.due - 3

variable {s : Session} {subject : String} {family? : Option Uuid} {now expiry : Instant}

/-- The world in which an issue begins to try. -/
def begun (s : Session) (family? : Option Uuid) (now : Instant) : World CalmStore :=
  { s.calm with
    draws := s.draws.past 0 (familyDraws family?)
    log := [.entered (.issue family? now)] }

theorem kind_begun (s : Session) (family? : Option Uuid) (now : Instant) :
    (s.begun family? now).store.kind = s.store.kind := s.kind_calm

theorem rows_begun (s : Session) (family? : Option Uuid) (now : Instant) :
    (s.begun family? now).store.rows = s.store.rows := s.rows_calm

theorem secretAhead_begun (k : Nat) :
    (s.begun family? now).draws.secretAhead k = s.draws.secretAhead k := by
  simp only [begun, Draws.secretAhead_past, Nat.zero_add]

theorem uuidAhead_begun (k : Nat) :
    (s.begun family? now).draws.uuidAhead k = s.draws.uuidAhead (familyDraws family? + k) := by
  simp only [begun, Draws.uuidAhead_past]

theorem grants_begun_iff {k : Nat} : Grants (s.begun family? now) k ↔ Grants s.calm k := by
  simp only [Grants, secretAhead_begun]
  rfl

/-- What an issue has decided before it tries. -/
def order (s : Session) (subject : String) (family? : Option Uuid) (now expiresAt : Instant) :
    Order where
  subject
  family := s.familyFor family?
  now
  expiresAt

theorem fits_begun (kept : s.store.kind = .durable → Keepable subject)
    (fresh : s.store.kind = .durable → ∀ k, 1 ≤ k → k ≤ 3 →
      s.store.rows.hasId (s.draws.uuidAhead (familyDraws family? + k)) = false) :
    (s.order subject family? now expiry).Fits (s.begun family? now) 3 where
  subject durable := kept (s.kind_begun family? now ▸ durable)
  ids durable k hk hle := by
    rw [rows_begun, uuidAhead_begun]
    exact fresh (s.kind_begun family? now ▸ durable) k hk hle

/-- An issue to a subject that has a name comes to what its tries come to. -/
theorem take_issue {ended : Outcome IssuedToken × World CalmStore}
    (reachable : s.store.isReachable) (named : Text.isBlank subject = false)
    (tried : (issueWithin s.settings.policy subject (s.familyFor family?) now
      maxIssueAttempts 1).run (s.begun family? now) = ended) :
    s.TakesCalmly (s.issuing subject family? now) (ended.1.map .issued, ended.2) := by
  have hcalm := take_calm reachable (.issue subject family?) (.fixed now)
  have hrun : (Work.program s.settings (.fixed now) (.issue subject family?)).run s.calm =
      (ended.1.map .issued, ended.2) := by
    have hissue : (issue s.settings.policy subject family? now).run s.calm = ended := by
      rw [← tried, issue, named]
      cases family? <;> rfl
    simp only [Work.program, now_bind (Clock.now_fixed now), run_map, hissue]
  rw [hrun] at hcalm
  exact hcalm

/-- An issue to a blank subject is no request. -/
theorem take_issue_blank (reachable : s.store.isReachable) (blank : Text.isBlank subject) :
    s.TakesCalmly (s.issuing subject family? now)
      (.failed blankSubject, { s.calm with log := [.entered (.issue family? now)] }) := by
  have hcalm := take_calm reachable (.issue subject family?) (.fixed now)
  have hrun : (Work.program s.settings (.fixed now) (.issue subject family?)).run s.calm =
      (.failed blankSubject, { s.calm with log := [.entered (.issue family? now)] }) := by
    simp only [Work.program, now_bind (Clock.now_fixed now), issue, blank, if_true]
    rfl
  rw [hrun] at hcalm
  exact hcalm

/-- An issue of which a try is granted, but none before it. -/
theorem take_issue_granted {tries : Nat} (reachable : s.store.isReachable)
    (named : Text.isBlank subject = false)
    (expires : s.settings.policy.expiresAt? now = some expiry)
    (fits : (s.order subject family? now expiry).Fits (s.begun family? now) 3) (enough : tries < 3)
    (grants : Grants s.calm (tries + 1)) (collide : ∀ k, 1 ≤ k → k ≤ tries → ¬ Grants s.calm k) :
    s.IssuedBy subject family? now expiry (tries + 1) := by
  let order := s.order subject family? now expiry
  have hcalm : s.TakesCalmly (s.issuing subject family? now)
      (.done (.issued (order.token (s.begun family? now) (tries + 1))),
        order.granted (collided (s.begun family? now) tries 1) 1) :=
    take_issue reachable named <| run_issueWithin_granted enough expires
      ⟨fits.subject, fun durable k hk hle => fits.ids durable k hk (by omega)⟩
      (grants_begun_iff.mpr grants) fun k hk hle h => collide k hk hle (grants_begun_iff.mp h)
  have hrow : order.row (s.begun family? now) (tries + 1) =
      { id := s.draws.uuidAhead (familyDraws family? + (tries + 1))
        subject
        family := s.familyFor family?
        hash := hashOf (s.draws.secretAhead (tries + 1)).token
        createdAt := s.store.kind.keep now
        expiresAt := s.store.kind.keep expiry } := by
    rw [Order.row_eq, kind_begun, uuidAhead_begun, secretAhead_begun]
    rfl
  constructor
  · rw [hcalm.outcome, Order.token, hrow, secretAhead_begun]
  · simp only [hcalm.rows, Order.granted, row_collided, hrow]
    rw [collided, rows_begun]
  · simp only [hcalm.draws, Order.granted, collided, begun, Draws.past_past, Nat.zero_add,
      Nat.add_assoc]
  · simp only [hcalm.log, Order.granted, row_collided, hrow]
    rfl
  · rw [hcalm.store]
    exact Nat.sub_eq_zero_of_le (Nat.le_of_lt_succ grants.1)

/-- An issue of which no try is granted. -/
theorem take_issue_exhausted (reachable : s.store.isReachable)
    (named : Text.isBlank subject = false)
    (expires : s.settings.policy.expiresAt? now = some expiry)
    (fits : (s.order subject family? now expiry).Fits (s.begun family? now) 3)
    (collide : ∀ k, 1 ≤ k → k ≤ 3 → ¬ Grants s.calm k) :
    s.TakesCalmly (s.issuing subject family? now)
      (.failed .hashCollision, collided (s.begun family? now) 3 1) :=
  take_issue reachable named <| run_issueWithin_exhausted expires fits fun k hk hle h =>
    collide k hk hle (grants_begun_iff.mp h)

/-- **An issue is decided by the first try that is granted**, on a store of either kind that can be
    reached, for every table, with any number of collisions due, and for a subject that the store
    keeps. A database is given identifiers that it does not have. -/
theorem issuesAtFirstGrant (s : Session) (reachable : s.store.isReachable) (subject : String)
    (family? : Option Uuid) {now expiry : Instant}
    (expires : s.settings.policy.expiresAt? now = some expiry)
    (kept : s.store.kind = .durable → Keepable subject)
    (fresh : s.store.kind = .durable → ∀ k, 1 ≤ k → k ≤ 3 →
      s.store.rows.hasId (s.draws.uuidAhead (familyDraws family? + k)) = false) :
    s.IssuesAtFirstGrant subject family? now expiry := by
  have fits : (s.order subject family? now expiry).Fits (s.begun family? now) 3 :=
    fits_begun kept fresh
  have named : (∃ c ∈ subject.toList, ¬ Text.isWhiteSpace c) → Text.isBlank subject = false := by
    rintro ⟨c, hc, inked⟩
    exact Bool.eq_false_iff.mpr fun blank => inked (Text.isBlank_iff.mp blank c hc)
  have granted (inked : ∃ c ∈ subject.toList, ¬ Text.isWhiteSpace c) (k : Nat) (positive : 1 ≤ k)
      (few : k ≤ 3) (grants : Grants s.calm k)
      (least : ∀ j, 1 ≤ j → j < k → ¬ Grants s.calm j) :
      s.IssuedBy subject family? now expiry k := by
    obtain ⟨tries, rfl⟩ : ∃ tries, k = tries + 1 := ⟨k - 1, by omega⟩
    exact take_issue_granted reachable (named inked) expires fits few grants fun j hj hjk =>
      least j hj (Nat.lt_succ_of_le hjk)
  refine ⟨fun blank => ?_, fun inked => ⟨?_, ?_⟩, granted, fun inked collide => ?_⟩
  · have hcalm : s.TakesCalmly (s.issuing subject family? now)
        (.failed blankSubject, { s.calm with log := [.entered (.issue family? now)] }) :=
      take_issue_blank reachable (Text.isBlank_iff.mpr blank)
    exact ⟨hcalm.outcome, hcalm.log, hcalm.draws, hcalm.rows.trans s.rows_calm,
      congrArg CalmStore.due hcalm.store⟩
  · rintro ⟨value, done⟩
    by_contra! collide
    have hcalm := take_issue_exhausted reachable (named inked) expires fits collide
    rw [hcalm.outcome] at done
    cases done
  · intro some_granted
    obtain ⟨positive, few, grants⟩ := Nat.find_spec some_granted
    exact ⟨_, (granted inked _ positive few grants fun j hj hjk h =>
      Nat.find_min some_granted hjk ⟨hj, by omega, h⟩).outcome⟩
  · have hcalm := take_issue_exhausted reachable (named inked) expires fits collide
    refine ⟨hcalm.outcome, hcalm.log, hcalm.draws.trans ?_,
      hcalm.rows.trans (s.rows_begun family? now), congrArg CalmStore.due hcalm.store⟩
    simp only [collided, begun, Draws.past_past, Nat.zero_add]

/-- A table that holds the tokens of the first two secrets to come. A database issues the third at
    the third try. A store in memory with one collision due does the same, since the collision that
    is due falls on the first try and the real ones on the second; with three due it gives up. -/
theorem issuesAtFirstGrant_of_taken :
    let draws : Draws := .ofLists [] []
    let taken := [(sampleRow (draws.secretAhead 1).token "alice" (.ofLists [] [5, 6])).1,
      (sampleRow (draws.secretAhead 2).token "bob" (.ofLists [] [7, 8])).1]
    let settings : Settings := .trial .default
    let s : Session := { store := .durableOf taken { reachable := true }, draws, settings }
    let forced (due : Nat) : Session :=
      { store := .memory { rows := taken, forcedCollisions := due }, draws, settings }
    s.IssuesAtFirstGrant "carol" none sampleInstant sampleExpiry ∧
      (forced 1).IssuesAtFirstGrant "carol" (some (.ofNat 9)) sampleInstant sampleExpiry ∧
      (Grants s.calm 3 ∧ ¬ Grants s.calm 2 ∧ ¬ Grants s.calm 1) ∧
      (s.issuing "carol" none sampleInstant).2.store.rows.length = 3 ∧
      ((forced 1).issuing "carol" (some (.ofNat 9)) sampleInstant).2.store.rows.length = 3 ∧
      ((forced 3).issuing "carol" none sampleInstant).1.outcome = .failed .hashCollision := by
  intro draws taken settings s forced
  have expires : Policy.default.expiresAt? sampleInstant = some sampleExpiry :=
    expiresAt?_sampleInstant
  have fresh : ∀ k ≤ 3, s.store.rows.hasId (s.draws.uuidAhead (familyDraws none + k)) = false := by
    decide +kernel
  exact ⟨issuesAtFirstGrant s rfl "carol" none expires (fun _ => by decide) fun _ k _ => fresh k,
    issuesAtFirstGrant (forced 1) rfl "carol" (some (.ofNat 9)) expires nofun nofun,
    by decide +kernel, by decide +kernel, by decide +kernel, by decide +kernel⟩

end Session

end TokenRotation
