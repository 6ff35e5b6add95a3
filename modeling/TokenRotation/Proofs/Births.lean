import TokenRotation.Proofs.Genealogy

/-!
# Births

Descent is read off the deeds, and an operation is known by what it answers. The two agree: a token
that a login answers begins a login, and a token that a rotation answers is a child of the token
that was rotated, under whatever faults and collisions it came about.

* `Mints` -- a hash was inserted when certain rows had been accepted;
* `Session.founds_of_login`, `Session.bears_of_rotate` -- what the answers of a session say of
  descent;
* `Session.sameLogin_of_login`, `Session.sameLogin_of_rotate` -- a login is where its token begins,
  and a rotation stays in the login of its token.
-/

namespace TokenRotation

/-! ## 1. Deeds of one actor -/

/-- The rows that were accepted in the deeds. -/
def acceptedIn (deeds : List Deed) : List Row := deeds.filterMap fun d => d.accepted?.map (·.1)

theorem acceptedBy_of_all {actor : Nat} {deeds : List Deed} (h : ∀ d ∈ deeds, d.actor = actor) :
    acceptedBy actor deeds = acceptedIn deeds :=
  List.filterMap_congr fun d hd => if_pos (h d hd)

/-- **The hash was inserted** when these rows had been accepted. -/
def Mints (deeds : List Deed) (accepted : List Row) (hash : String) : Prop :=
  ∃ front d back new, deeds = front ++ d :: back ∧ d.inserted? = some new ∧ new.hash = hash ∧
    acceptedIn front = accepted

namespace Mints

variable {deeds : List Deed} {accepted : List Row} {hash : String}

theorem prepend (h : Mints deeds accepted hash) (before : List Deed) :
    Mints (before ++ deeds) (acceptedIn before ++ accepted) hash := by
  obtain ⟨front, d, back, new, rfl, hnew, hhash, rfl⟩ := h
  exact ⟨before ++ front, d, back, new, by simp, hnew, hhash, List.filterMap_append⟩

theorem append (h : Mints deeds accepted hash) (more : List Deed) :
    Mints (deeds ++ more) accepted hash := by
  obtain ⟨front, d, back, new, rfl, hrest⟩ := h
  exact ⟨front, d, back ++ more, new, by simp, hrest⟩

/-- An actor whose number is new does all its deeds from here on. -/
theorem split_actor {past : List Deed} {actor : Nat} (h : Mints deeds accepted hash)
    (before : ∀ d ∈ past, d.actor < actor) (all : ∀ d ∈ deeds, d.actor = actor) :
    ∃ front d back new, past ++ deeds = front ++ d :: back ∧ d.inserted? = some new ∧
      new.hash = hash ∧ acceptedBy d.actor front = accepted := by
  obtain ⟨front, d, back, new, rfl, hnew, hhash, haccepted⟩ := h
  refine ⟨past ++ front, d, back, new, by simp, hnew, hhash, ?_⟩
  have hpast : acceptedBy actor past = [] :=
    acceptedBy_of_others fun e he => Nat.ne_of_lt (before e he)
  have hfront : acceptedBy actor front = acceptedIn front :=
    acceptedBy_of_all fun e he => all e (List.mem_append_left _ he)
  rw [all d (by simp), acceptedBy_append, hpast, hfront, haccepted]
  rfl

end Mints

/-! ## 2. Services -/

namespace Service

open Program

variable {k : StoreKind} {rows : Table}

theorem issueWithin_mints {policy : Policy} {subject : String} {family : Uuid} {now : Instant}
    {left number : Nat} :
    (issueWithin policy subject family now left number).Ends k rows fun deeds outcome _ =>
      ∀ issued, outcome = .done issued → Mints deeds [] (hashOf issued.token) := by
  induction left generalizing number with
  | zero => exact ends_finish nofun
  | succ left ih =>
    refine ends_secret fun secret => ends_uuid fun id => ?_
    cases policy.expiresAt? now with
    | none => exact ends_finish nofun
    | some expiresAt =>
      refine ends_call (fun actor answer after h => ?_) (fun actor e _ => ?_)
        fun actor cause => nofun
      · cases h with
        | insert fresh =>
          refine ends_log (ends_finish fun issued hissued => ?_)
          cases hissued
          exact ⟨[], _, [], _, rfl, rfl, k.keepRow_hash _, rfl⟩
      · cases e with
        | hashCollision =>
          refine ends_log (ih.imp fun deeds outcome _ h issued hissued => ?_)
          exact (h issued hissued).prepend [_]
        | database | invalidInput | notFound | refused => exact ends_finish nofun

theorem issue_mints (policy : Policy) (subject : String) (family : Option Uuid) (now : Instant) :
    (issue policy subject family now).Ends k rows fun deeds outcome _ =>
      ∀ issued, outcome = .done issued → Mints deeds [] (hashOf issued.token) := by
  refine ends_log ?_
  split
  · exact ends_finish nofun
  · cases family with
    | some family => exact issueWithin_mints
    | none => exact ends_uuid fun fresh => issueWithin_mints

/-- Who consumed a token had its row accepted, and no other. -/
theorem consume_accepts (policy : Policy) (token : String) (clock : Clock) :
    (consume policy token clock).Ends k rows fun deeds outcome _ =>
      ∀ c, outcome = .done c → ∃ row, acceptedIn deeds = [row] ∧ row.hash = hashOf token := by
  refine ends_log (ends_store_bind (fun actor answer after h => ?_) (fun actor e _ => nofun)
    fun actor cause => nofun)
  cases h with
  | unknown | refused | reuse => exact ends_log (ends_finish nofun)
  | @first _ _ _ row now c g found shown verdict =>
    have hhash := (row.evolves_stamp c g).hash.trans (Table.hash_of_byHash? found)
    exact ends_log (ends_finish fun _ _ => ⟨_, rfl, hhash⟩)
  | @grace _ _ _ row now found shown verdict =>
    exact ends_log (ends_finish fun _ _ => ⟨row, rfl, Table.hash_of_byHash? found⟩)

/-- What a rotation answers was inserted when the row of the rotated token had been accepted. -/
def RotateMints (token : String) (deeds : List Deed) (outcome : Outcome RotatedToken) : Prop :=
  ∀ rotated, outcome = .done rotated →
    ∃ row, Mints deeds [row] (hashOf rotated.issued.token) ∧ row.hash = hashOf token

/-- **A rotation inserts what it answers**, as a child of the token that is rotated. -/
theorem rotate_mints (policy : Policy) (token : String) (clock : Clock) :
    (rotate policy token clock).Ends k rows fun deeds outcome _ =>
      RotateMints token deeds outcome := by
  refine ends_bind ((consume_accepts policy token clock).imp fun deeds outcome kept h => ?_)
  cases outcome with
  | failed | aborted => exact nofun
  | done consumed =>
    obtain ⟨row, haccepted, hhash⟩ := h consumed rfl
    change Ends k kept (fun more outcome _ => RotateMints token (deeds ++ more) outcome)
      (Program.now clock >>= _)
    refine ends_now_bind (fun now _ => ?_) fun cause _ => nofun
    refine ends_bind ((issue_mints _ _ _ _).imp fun more outcome after h => ?_)
    cases outcome with
    | failed | aborted => exact nofun
    | done issued =>
      have hmints := (h issued rfl).prepend deeds
      rw [haccepted] at hmints
      -- whatever the link comes to, the insertion is done
      have hrotated (last : List Deed) {rotated : RotatedToken}
          (hissued : rotated.issued = issued) :
          RotateMints token (deeds ++ (more ++ last)) (.done rotated) := by
        intro r hr
        cases hr
        rw [hissued, ← List.append_assoc]
        exact ⟨row, hmints.append last, hhash⟩
      change Ends k after
        (fun last outcome _ => RotateMints token (deeds ++ (more ++ last)) outcome)
        (Program.store (.link consumed.id issued.id) >>= _)
      refine ends_store_bind (fun actor linked after _ => ?_) (fun actor e _ => nofun)
        fun actor cause => nofun
      cases linked with
      | true => exact ends_finish (hrotated _ rfl)
      | false => exact ends_log (ends_finish (hrotated _ rfl))

end Service

/-! ## 3. Sessions -/

namespace Session

open Program Service

variable {s : Session} {past : List Deed} {number : Nat} {step : Step}

/-- The last of some steps adds its deeds at the end. -/
theorem deeds_concat (s : Session) (steps : List Step) (step : Step) :
    s.deeds 0 (steps ++ [step]) =
      s.deeds 0 steps ++ (s.after steps).stepDeeds (0 + steps.length) step := by
  rw [deeds_append, deeds, deeds, List.append_nil]

/-- **A token that a login answers begins a login.** -/
theorem founds_of_login {subject : String} {issued : IssuedToken}
    (before : ∀ d ∈ past, d.actor < number) (asked : step.command = .work (.issue subject none))
    (answered : (s.take step).1.outcome = .done (.issued issued)) :
    Founds (past ++ s.stepDeeds number step) (hashOf issued.token) := by
  have hprogram : (Work.program s.settings step.clock (.issue subject none)).Ends s.store.kind
      s.store.rows fun deeds outcome _ =>
        ∀ issued, outcome = .done (.issued issued) → Mints deeds [] (hashOf issued.token) := by
    refine ends_now_bind (fun now _ => ?_) fun cause _ => nofun
    refine (ends_map_done (issue_mints _ subject none now) Value.issued).imp
      fun deeds outcome after h issued hissued => ?_
    obtain ⟨_, ⟨⟩, hend⟩ := h _ hissued
    exact hend issued rfl
  have hmints := take_ends asked hprogram number issued answered
  exact hmints.split_actor before fun d hd => actor_of_mem_stepDeeds hd

/-- A token that a login answers is of that login. -/
theorem sameLogin_of_login {steps : List Step} {subject : String} {issued : IssuedToken}
    (asked : step.command = .work (.issue subject none))
    (answered : ((s.after steps).take step).1.outcome = .done (.issued issued)) :
    SameLogin (s.deeds 0 (steps ++ [step])) (hashOf issued.token) (hashOf issued.token) := by
  have hbefore : ∀ d ∈ s.deeds 0 steps, d.actor < 0 + steps.length :=
    fun d hd => (actor_of_mem_deeds hd).2
  have founds := founds_of_login hbefore asked answered
  rw [deeds_concat]
  exact ⟨_, founds, .refl, .refl⟩

/-- **A token that a rotation answers is a child** of the token that was rotated. -/
theorem bears_of_rotate {token : String} {rotated : RotatedToken}
    (before : ∀ d ∈ past, d.actor < number) (asked : step.command = .work (.rotate token))
    (answered : (s.take step).1.outcome = .done (.rotated rotated)) :
    Bears (past ++ s.stepDeeds number step) (hashOf token) (hashOf rotated.issued.token) := by
  have hprogram : (Work.program s.settings step.clock (.rotate token)).Ends s.store.kind
      s.store.rows fun deeds outcome _ => ∀ rotated, outcome = .done (.rotated rotated) →
        RotateMints token deeds (.done rotated) := by
    refine (ends_map_done (rotate_mints _ token step.clock) Value.rotated).imp
      fun deeds outcome after h rotated hrotated => ?_
    obtain ⟨_, ⟨⟩, hend⟩ := h _ hrotated
    exact hend
  obtain ⟨row, hmints, hhash⟩ := take_ends asked hprogram number rotated answered rotated rfl
  obtain ⟨front, d, back, new, heq, hnew, hnewhash, haccepted⟩ :=
    hmints.split_actor before fun d hd => actor_of_mem_stepDeeds hd
  exact ⟨front, d, back, new, row, heq, hnew, hnewhash, by simp [haccepted], hhash⟩

/-- **A rotation stays in the login of its token.** -/
theorem sameLogin_of_rotate {steps : List Step} {hash token : String} {rotated : RotatedToken}
    (same : SameLogin (s.deeds 0 steps) hash (hashOf token))
    (asked : step.command = .work (.rotate token))
    (answered : ((s.after steps).take step).1.outcome = .done (.rotated rotated)) :
    SameLogin (s.deeds 0 (steps ++ [step])) hash (hashOf rotated.issued.token) := by
  obtain ⟨root, hroot, hdesc, hdesc'⟩ := same
  have hbefore : ∀ d ∈ s.deeds 0 steps, d.actor < 0 + steps.length :=
    fun d hd => (actor_of_mem_deeds hd).2
  have hbears := bears_of_rotate hbefore asked answered
  rw [deeds_concat]
  exact ⟨root, hroot.append _, hdesc.append _, (hdesc'.append _).tail hbears⟩

end Session

end TokenRotation
