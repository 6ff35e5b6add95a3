import TokenRotation.Proofs.Conduct

/-!
# What the operations ask of a store

Whatever it is replied, an operation of the service goes by one clock and one policy. What it adds
was created when the clock says and expires when the policy says, and it is known by the hash of a
text; what it presents is judged by that clock and that policy. It links only what it rotated.

* `Program.Asks` -- a program that makes no other calls than some, whatever it is replied;
* `StoreCall.GoesBy` -- a call that goes by a clock and a policy;
* `Session.Work.asks` -- **the operations make no other calls**;
* `Session.Work.exists_abides` -- they abide by their stages, whoever a token is issued to.
-/

namespace TokenRotation

/-! ## 1. Programs and their calls -/

namespace Program

variable {α β : Type} {P : StoreCall → Prop} {p : Program α}

/-- **Whatever it is replied, the program makes no other calls** than those. -/
def Asks (P : StoreCall → Prop) : Program α → Prop
  | .finish _ => True
  | .request r next => (∀ call, r = .store call → P call) ∧ ∀ reply, (next reply).Asks P

theorem asks_bind {f : α → Program β} (h : p.Asks P) (hf : ∀ a, (f a).Asks P) :
    (p >>= f).Asks P := by
  induction p with
  | finish outcome =>
    cases outcome with
    | done a => exact hf a
    | failed | aborted => exact trivial
  | request r next ih => exact ⟨h.1, fun reply => ih reply (h.2 reply)⟩

theorem asks_map (h : p.Asks P) (f : α → β) : (p >>= fun a => pure (f a)).Asks P :=
  asks_bind h fun _ => trivial

theorem asks_attempt (h : p.Asks P) : p.attempt.Asks P := by
  induction p with
  | finish outcome => cases outcome <;> exact trivial
  | request r next ih => exact ⟨h.1, fun reply => ih reply (h.2 reply)⟩

theorem asks_store {call : StoreCall} (h : P call) : (store call).Asks P := by
  refine ⟨fun _ heq => ?_, fun reply => ?_⟩
  · cases heq
    exact h
  · cases reply <;> exact trivial

theorem asks_log (event : Event) : (log event).Asks P := ⟨nofun, fun _ => trivial⟩

/-- Who has read a clock goes on with what it shows. -/
theorem asks_now_bind {clock : Clock} {f : Instant → Program α}
    (h : ∀ now, clock.now = .ok now → (f now).Asks P) : (now clock >>= f).Asks P := by
  unfold now
  split
  · next t shown => exact h t shown
  · exact trivial

/-- **No deed of the program is another call.** -/
theorem Asks.deeds {σ : Type} [TokenStore σ] (h : p.Asks P) (actor : Nat) (w : World σ) :
    ∀ d ∈ p.deeds actor w, P d.call := by
  induction p generalizing w with
  | finish outcome => exact fun d hd => absurd hd List.not_mem_nil
  | request r next ih =>
    intro d hd
    unfold Program.deeds at hd
    rcases List.mem_append.mp hd with hd | hd
    · cases r with
      | store call =>
        rw [List.mem_singleton.mp hd]
        exact h.1 call rfl
      | secret | uuid | log => cases hd
    · split at hd
      · next reply w' _ => exact ih reply (h.2 reply) w' d hd
      · cases hd

end Program

/-- **The call goes by the clock and the policy**, where it has an instant or a judgement in it that
    matters to a row. -/
def StoreCall.GoesBy (policy : Policy) (clock : Clock) : StoreCall → Prop
  | .insert token => clock.now = .ok token.createdAt ∧
      policy.expiresAt? token.createdAt = some token.expiresAt ∧ ∃ text, token.hash = hashOf text
  | .consume _ clock' policy' => clock' = clock ∧ policy' = policy
  | .revokeFamily _ now | .revokeSubject _ now => clock.now = .ok now
  | .link .. | .getByHash _ | .listFamily _ => True

/-! ## 2. Services -/

namespace Service

open Program

variable {policy : Policy} {clock : Clock} {now : Instant}

theorem asks_consume (token : String) :
    (consume policy token clock).Asks (StoreCall.GoesBy policy clock) := by
  refine asks_bind (asks_log _) fun _ => asks_bind (asks_store ⟨rfl, rfl⟩) fun outcome => ?_
  cases outcome with
  | accepted | unknown | rejected | reused => exact asks_bind (asks_log _) fun _ => trivial

theorem asks_issueWithin {subject : String} {family : Uuid} {left number : Nat}
    (shown : clock.now = .ok now) :
    (issueWithin policy subject family now left number).Asks (StoreCall.GoesBy policy clock) := by
  induction left generalizing number with
  | zero => exact trivial
  | succ left ih =>
    refine ⟨nofun, fun secret => ⟨nofun, fun id => ?_⟩⟩
    cases expires : policy.expiresAt? now with
    | none => exact trivial
    | some expiresAt =>
      refine ⟨fun call heq => ?_, fun reply => ?_⟩
      · cases heq
        exact ⟨shown, expires, secret.token, rfl⟩
      · match reply with
        | .ok row => exact ⟨nofun, fun _ => trivial⟩
        | .error .hashCollision => exact ⟨nofun, fun _ => ih⟩
        | .error (.database _) | .error (.invalidInput _) | .error .notFound
        | .error (.refused _) => exact trivial

theorem asks_issue (subject : String) (given : Option Uuid) (shown : clock.now = .ok now) :
    (issue policy subject given now).Asks (StoreCall.GoesBy policy clock) := by
  refine asks_bind (asks_log _) fun _ => ?_
  split
  · exact trivial
  · cases given with
    | some family => exact asks_issueWithin shown
    | none => exact ⟨nofun, fun fresh => asks_issueWithin shown⟩

theorem asks_rotate (token : String) :
    (rotate policy token clock).Asks (StoreCall.GoesBy policy clock) := by
  refine asks_bind (asks_consume token) fun consumed => asks_now_bind fun now shown => ?_
  refine asks_bind (asks_issue _ _ shown) fun issued => ?_
  refine asks_bind (asks_store trivial) fun linked => ?_
  split
  · exact trivial
  · exact asks_bind (asks_log _) fun _ => trivial

theorem asks_revokeFamily (family : Uuid) (shown : clock.now = .ok now) :
    (revokeFamily family now).Asks (StoreCall.GoesBy policy clock) :=
  asks_bind (asks_log _) fun _ => asks_bind (asks_store shown) fun _ =>
    asks_bind (asks_log _) fun _ => trivial

theorem asks_revokeSubject (subject : String) (shown : clock.now = .ok now) :
    (revokeSubject subject now).Asks (StoreCall.GoesBy policy clock) :=
  asks_bind (asks_log _) fun _ => asks_bind (asks_store shown) fun _ =>
    asks_bind (asks_log _) fun _ => trivial

theorem asks_authenticate (token : String) (now : Instant) :
    (authenticate token now).Asks (StoreCall.GoesBy policy clock) := by
  refine asks_bind (asks_store trivial) fun found => ?_
  cases found with
  | none => exact trivial
  | some row =>
    simp only
    split
    · exact trivial
    · exact trivial
    · exact asks_bind (asks_log _) fun _ => trivial

theorem asks_logout (token : String) (shown : clock.now = .ok now) :
    (logout token now).Asks (StoreCall.GoesBy policy clock) :=
  asks_bind (asks_authenticate token now) fun row => asks_revokeFamily row.family shown

theorem asks_logoutEverywhere (token : String) (shown : clock.now = .ok now) :
    (logoutEverywhere token now).Asks (StoreCall.GoesBy policy clock) :=
  asks_bind (asks_authenticate token now) fun row => asks_revokeSubject row.subject shown

/-- Whoever only issues a token adds a row, and no more. -/
theorem abides_issue (policy : Policy) (subject : String) (given : Option Uuid) (now : Instant) :
    (issue policy subject given now).Abides (fun _ _ => True) .founding := by
  cases given with
  | none => exact abides_login policy subject now
  | some family =>
    refine abides_log_bind ?_
    split
    · exact trivial
    · have allowed (token : NewToken) (_ : token.subject = subject) (_ : token.family = family) :
          Stage.founding.Allows (.insert token) := trivial
      exact (abides_issueWithin allowed).imp fun _ _ _ => trivial

end Service

namespace Http

open Program

variable {clock : Clock}

theorem Endpoint.asks_handle (e : Endpoint) (policy : Policy) (token : String) :
    (e.handle policy token clock).Asks (StoreCall.GoesBy policy clock) := by
  cases e with
  | refresh => exact asks_map (Service.asks_rotate token) _
  | logout => exact asks_now_bind fun now shown => asks_map (Service.asks_logout token shown) _
  | logoutEverywhere =>
    exact asks_now_bind fun now shown => asks_map (Service.asks_logoutEverywhere token shown) _

theorem asks_handled {P : StoreCall → Prop} {p : Program Response} (h : p.Asks P) :
    (handled p).Asks P := by
  refine asks_bind (asks_attempt h) fun result => ?_
  cases result with
  | ok response => exact trivial
  | error failure => exact asks_bind (asks_log _) fun _ => trivial

theorem asks_serve (settings : Settings) (r : Request) :
    (serve settings r clock).Asks (StoreCall.GoesBy settings.policy clock) := by
  unfold serve
  split
  · exact trivial
  · refine asks_map ?_ _
    unfold respond
    split
    · exact trivial
    · split
      · exact trivial
      · split
        · exact asks_handled (Endpoint.asks_handle _ _ _)
        · exact trivial

end Http

/-! ## 3. Operations -/

namespace Session

open Program

/-- The work is an operation of the service: neither a link on its own nor a call of the store past
    the services. -/
def Work.isUseCase : Work → Bool
  | .link .. | .call _ => false
  | _ => true

/-- **An operation asks nothing of the store but by the clock and the policy.** -/
theorem Work.asks {work : Work} (h : work.isUseCase) (settings : Settings) (clock : Clock) :
    (work.program settings clock).Asks (StoreCall.GoesBy settings.policy clock) := by
  cases work with
  | issue subject given =>
    exact asks_now_bind fun now shown => asks_map (Service.asks_issue subject given shown) _
  | consume token => exact asks_map (Service.asks_consume token) _
  | rotate token => exact asks_map (Service.asks_rotate token) _
  | revokeFamily family =>
    exact asks_now_bind fun now shown => asks_map (Service.asks_revokeFamily family shown) _
  | revokeSubject subject =>
    exact asks_now_bind fun now shown => asks_map (Service.asks_revokeSubject subject shown) _
  | logout token =>
    exact asks_now_bind fun now shown => asks_map (Service.asks_logout token shown) _
  | logoutEverywhere token =>
    exact asks_now_bind fun now shown => asks_map (Service.asks_logoutEverywhere token shown) _
  | find | lineage => exact asks_map (asks_store trivial) _
  | policy | settings => exact trivial
  | serve r => exact asks_map (Http.asks_serve settings r) _
  | link | call => cases h

/-- **An operation abides**, from a stage at which nothing is held: an issue adds its row into any
    family. -/
theorem Work.exists_abides {work : Work} (h : work.isUseCase) (settings : Settings)
    (clock : Clock) : ∃ st : Stage, (st = .founding ∨ st = .idle) ∧
      (work.program settings clock).Abides (fun _ _ => True) st := by
  have of_idle (other : Work) (orderly : other.isOrderly) (idle : other.stage = .idle) :
      ∃ st : Stage, (st = .founding ∨ st = .idle) ∧
        (other.program settings clock).Abides (fun _ _ => True) st :=
    ⟨.idle, .inr rfl, idle ▸ Work.abides orderly settings clock⟩
  cases work with
  | issue subject given =>
    exact ⟨.founding, .inl rfl, abides_now_bind
      (fun now => abides_map (Service.abides_issue _ subject given now) _) fun _ => trivial⟩
  | link | call => cases h
  | consume | rotate | revokeFamily | revokeSubject | logout | logoutEverywhere | find | lineage
  | policy | settings | serve => exact of_idle _ rfl rfl

/-- The step is an operation of the service, or asks the store in memory for something. -/
def Step.isUseCase (step : Step) : Bool :=
  match step.command with
  | .work work => work.isUseCase
  | .isEmpty | .failInserts _ => true

/-- **The deeds of an operation** go by its clock and the policy of the service, and follow stages
    from one at which nothing is held. -/
theorem useCase_stepDeeds (s : Session) (actor : Nat) {step : Step} (h : step.isUseCase) :
    (∀ d ∈ s.stepDeeds actor step, d.call.GoesBy s.settings.policy step.clock) ∧
      ∃ st : Stage, (st = .founding ∨ st = .idle) ∧ st.Follows (s.stepDeeds actor step) := by
  unfold Step.isUseCase at h
  unfold stepDeeds
  cases hcommand : step.command with
  | isEmpty | failInserts =>
    exact ⟨fun d hd => absurd hd List.not_mem_nil, .idle, .inr rfl, trivial⟩
  | work work =>
    rw [hcommand] at h
    obtain ⟨st, hst, abides⟩ := Work.exists_abides h s.settings step.clock
    exact ⟨(Work.asks h _ _).deeds actor _, st, hst, Program.follows abides _ _⟩

end Session

end TokenRotation
