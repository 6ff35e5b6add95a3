import TokenRotation.Proofs.Endings
import TokenRotation.Proofs.Mirrors

/-!
# The surface of the service

What can be reached over HTTP is a rotation, a logout and a logout everywhere, and nothing besides
them. A request that presents a token to an endpoint does to the store, to the draws and to the log
what the work of that endpoint does, but for one event that tells of a failure, and its response is
made of how the work ends. Every other request is turned away before anything is touched. All
responses carry the headers that are meant for all.

* `Http.Request.Presents`, `Http.Request.Writes` -- the token in a request, and the requests that
  clients write;
* `Http.run_serve_of_asks`, `Http.run_serve_of_asks_eq_none` -- what serving a request comes to;
* `Session.surface` -- **a step that serves a request is the step that does its work**, or none.
-/

namespace TokenRotation

/-! ## 1. What a request asks for -/

namespace Http

/-- The endpoint that a request is for, and the token it presents there: it is a `POST` to the path
    of the endpoint, and a token is read from its body. -/
def Request.asks? (r : Request) : Option (Endpoint × String) :=
  (Endpoint.ofPath? r.path).bind fun endpoint => r.token?.map fun token => (endpoint, token)

theorem Request.asks?_eq_some_iff {r : Request} {endpoint : Endpoint} {token : String} :
    r.asks? = some (endpoint, token) ↔
      r.method = "POST" ∧ Endpoint.ofPath? r.path = some endpoint ∧
        presentedToken r = .ok token := by
  unfold asks? token?
  cases Endpoint.ofPath? r.path with
  | none => simp
  | some found =>
    by_cases hpost : r.method = "POST"
    · cases presentedToken r with
      | ok presented => simp [hpost, Except.toOption]
      | error response => simp [hpost, Except.toOption]
    · simp [hpost]

/-- An endpoint is found at its own path only. -/
theorem Endpoint.path_of_ofPath? {path : String} {endpoint : Endpoint}
    (h : ofPath? path = some endpoint) : path = endpoint.path := by
  have found := List.find?_some h
  exact (decide_eq_true_iff.mp found).symm

/-- The work of an endpoint. -/
def Endpoint.work : Endpoint → String → Session.Work
  | .refresh, token => .rotate token
  | .logout, token => .logout token
  | .logoutEverywhere, token => .logoutEverywhere token

/-- The response to work that went through. -/
def reply (policy : Policy) : Session.Value → Response
  | .rotated rotated =>
    .withContent 200 (.token rotated.issued.token policy.lifetime.wholeSeconds rotated.subject)
  | _ => .noContent

/-! ## 2. Tokens in bodies -/

/-- **A token is in the request**: its content is called a JSON text by its type, is of two
    mebibytes at most, and has the token in it. -/
structure Request.Presents (r : Request) (token : String) : Prop where
  json : r.bodyIsJson = true
  small : r.body.length ≤ 2097152
  read : Payload.token r.body = .ok token

theorem presentedToken_eq_ok_iff {r : Request} {token : String} :
    presentedToken r = .ok token ↔ r.Presents token := by
  unfold presentedToken
  constructor
  · intro h
    split at h
    · cases h
    · next json =>
      split at h
      · cases h
      · next small =>
        split at h
        · next read =>
          cases h
          exact ⟨by simpa using json, Nat.not_lt.mp small, read⟩
        · cases h
  · rintro ⟨json, small, read⟩
    have fits : ¬ maxBodyBytes < r.body.length := Nat.not_lt.mpr small
    simp [json, fits, read]

section Written

open Json

/-- The bytes of a text. -/
def utf8 (text : String) : List UInt8 := text.toUTF8.data.toList

/-- Every byte stands for itself in a string of a JSON text. -/
def IsPlain (bytes : List UInt8) : Prop :=
  ∀ b ∈ bytes, isControl b = false ∧ b ≠ quote ∧ b ≠ backslash

instance (bytes : List UInt8) : Decidable (IsPlain bytes) :=
  inferInstanceAs (Decidable (∀ b ∈ bytes, _))

/-- The content that a client writes for a token: an object with the one member. -/
def written (token : String) : List UInt8 :=
  utf8 "\x7b\"refresh_token\":\"" ++ utf8 token ++ utf8 "\"\x7d"

theorem bytes?_of_isPlain {content : List UInt8} (plain : IsPlain content)
    (read rest : List UInt8) :
    Json.Text.bytes? read (content ++ quote :: rest) = some (read.reverse ++ content, rest) := by
  induction content generalizing read with
  | nil =>
    rw [List.append_nil]
    rfl
  | cons b content ih =>
    obtain ⟨hcontrol, hquote, hbackslash⟩ := plain b List.mem_cons_self
    have hrest : IsPlain content := fun b hb => plain b (List.mem_cons_of_mem _ hb)
    rw [List.cons_append, Json.Text.bytes?]
    · rw [hcontrol, Bool.false_or, decide_eq_false hbackslash, if_neg Bool.false_ne_true, ih hrest]
      simp
    · exact hquote
    -- The two forms of an escape begin with a backslash.
    · intro _ _ _ _ _ same
      exact absurd same hbackslash
    · intro _ _ same
      exact absurd same hbackslash

theorem read?_of_isPlain {text : String} (plain : IsPlain (utf8 text)) (rest : List UInt8) :
    Json.Text.read? (utf8 text ++ quote :: rest) = some (text, rest) := by
  have decoded : String.fromUTF8? ⟨(utf8 text).toArray⟩ = some text := by
    rw [utf8, Array.toArray_toList]
    exact dif_pos text.isValidUTF8
  rw [Json.Text.read?, bytes?_of_isPlain plain]
  simp only [List.reverse_nil, List.nil_append, decoded]

namespace Payload

variable {text value rest : List UInt8} {token : String}

theorem string_of_read? (read : Json.Text.read? text = some (token, rest)) :
    string (quote :: text) = .ok (token, rest) := by
  have opened : skipSpace (quote :: text) = quote :: text := rfl
  unfold string
  split
  · next h =>
    cases opened.symm.trans h
    rw [read]
  · next h => exact absurd opened (h text)

/-- An object with one member is read in two steps. -/
theorem members_of_read? (steps : Nat)
    (key : Json.Text.read? text = some (tokenKey, colon :: quote :: value))
    (read : Json.Text.read? value = some (token, closeObject :: rest)) :
    members (steps + 2) true none (quote :: text) = .ok (token, rest) := by
  have opened : skipSpace (quote :: text) = quote :: text := rfl
  have next : (nextKey? true (quote :: text)).bind Json.Text.read? =
      some (tokenKey, colon :: quote :: value) := key
  have behind : afterColon? (colon :: quote :: value) = some (quote :: value) := rfl
  rw [members]
  split
  · next h => cases opened.symm.trans h
  · rw [opened, next]
    simp only [if_true, Option.isSome_none, Bool.false_eq_true, if_false, behind,
      string_of_read? read]
    rfl

theorem token_of_read? (key : Json.Text.read? text = some (tokenKey, colon :: quote :: value))
    (read : Json.Text.read? value = some (token, [closeObject])) :
    Payload.token (openObject :: quote :: text) = .ok token := by
  have closed : members ((quote :: text).length + 1) true none (quote :: text) = .ok (token, []) :=
    members_of_read? text.length key read
  unfold Payload.token
  dsimp only
  split
  · next h =>
    cases closed.symm.trans h
    rfl
  · next h => cases closed.symm.trans h

/-- **What a client writes is read back**, whatever the token is. -/
theorem token_written (plain : IsPlain (utf8 token)) :
    Payload.token (written token) = .ok token := by
  have front : utf8 "\x7b\"refresh_token\":\"" =
      openObject :: quote :: (utf8 tokenKey ++ [quote, colon, quote]) := by
    decide
  have back : utf8 "\"\x7d" = [quote, closeObject] := by decide
  have body : written token = openObject :: quote :: (utf8 tokenKey ++ quote :: colon :: quote ::
      (utf8 token ++ quote :: [closeObject])) := by
    simp [written, front, back]
  rw [body]
  exact token_of_read? (read?_of_isPlain (by decide +kernel) _) (read?_of_isPlain plain _)

end Payload

/-- A request as clients write it. -/
structure Request.Writes (r : Request) (token : String) : Prop where
  plain : IsPlain (utf8 token)
  type : r.header? "content-type" = some "application/json"
  body : r.body = written token
  small : r.body.length ≤ 2097152

theorem Request.Writes.presents {r : Request} {token : String} (h : r.Writes token) :
    r.Presents token where
  json := by
    unfold Request.bodyIsJson
    rw [h.type]
    decide
  small := h.small
  read := by
    rw [h.body]
    exact Payload.token_written h.plain

end Written

/-! ## 3. Serving -/

variable {r : Request} {endpoint : Endpoint} {token : String}

/-- An endpoint does its work and makes a response of the value. -/
theorem Endpoint.handle_eq (endpoint : Endpoint) (settings : Settings) (token : String)
    (clock : Clock) :
    endpoint.handle settings.policy token clock =
      (endpoint.work token).program settings clock >>= fun value =>
        pure (reply settings.policy value) := by
  cases endpoint <;>
    simp only [handle, work, Session.Work.program, bind_assoc, pure_bind, reply]

/-- **A request that asks for something** is served by the work of its endpoint. A failure becomes
    the last event of the log, and a response. -/
theorem run_serve_of_asks (asks : r.asks? = some (endpoint, token)) (settings : Settings)
    (clock : Clock) (w : Program.World AnyStore) :
    (serve settings r clock).run w =
      match ((endpoint.work token).program settings clock).run w with
      | (.done value, w) => (.done ((reply settings.policy value).guarded settings.corsOrigin), w)
      | (.failed failure, w) =>
        (.done ((Response.ofFailure failure).guarded settings.corsOrigin),
          { w with log := w.log ++ [failureEvent failure] })
      | (.aborted cause, w) => (.aborted cause, w) := by
  obtain ⟨hpost, hendpoint, htoken⟩ := Request.asks?_eq_some_iff.mp asks
  have hoptions : r.method ≠ "OPTIONS" := by
    rw [hpost]
    decide
  have hmethod : ¬ r.method ≠ "POST" := not_not_intro hpost
  rw [serve, if_neg hoptions, Program.run_map, respond, hendpoint]
  simp only [if_neg hmethod, htoken, run_handled, endpoint.handle_eq, Program.run_map]
  rcases ((endpoint.work token).program settings clock).run w with ⟨outcome, w'⟩
  cases outcome <;> rfl

/-- The responses to requests that ask for nothing the service does: the answer to a question about
    methods, or a status that says what is wrong. -/
inductive Response.TurnsAway : Response → Prop
  | preflight (r : Request) (options : r.method = "OPTIONS") : TurnsAway (preflight r)
  | unknownPath : TurnsAway .unknownPath
  | wrongMethod : TurnsAway .wrongMethod
  | rejected {status : Nat} (h : status ∈ [400, 413, 415, 422]) : TurnsAway (.rejection status)

theorem Response.TurnsAway.status {response : Response} (h : response.TurnsAway) :
    response.status ∈ [200, 400, 404, 405, 413, 415, 422] := by
  cases h with
  | preflight => exact List.mem_cons_self
  | unknownPath | wrongMethod => decide
  | @rejected status h =>
    change status ∈ [200, 400, 404, 405, 413, 415, 422]
    have listed : ∀ n ∈ [400, 413, 415, 422], n ∈ [200, 400, 404, 405, 413, 415, 422] := by decide
    exact listed status h

theorem Response.TurnsAway.members? {response : Response} (h : response.TurnsAway) :
    response.content.members? = none := by
  cases h <;> rfl

theorem turnsAway_of_presentedToken {response : Response}
    (h : presentedToken r = .error response) : response.TurnsAway := by
  unfold presentedToken at h
  split at h
  · cases h
    exact .rejected (by decide)
  · split at h
    · cases h
      exact .rejected (by decide)
    · split at h
      · cases h
      · next e _ =>
        cases h
        exact .rejected (by cases e <;> decide)

/-- **Any other request** is turned away: nothing is drawn or logged, and the store is not asked. -/
theorem run_serve_of_asks_eq_none (asks : r.asks? = none) (settings : Settings) (clock : Clock)
    (w : Program.World AnyStore) :
    ∃ response : Response, response.TurnsAway ∧
      (serve settings r clock).run w = (.done (response.guarded settings.corsOrigin), w) := by
  unfold serve
  split
  · next options => exact ⟨preflight r, .preflight r options, rfl⟩
  · unfold respond
    split
    · exact ⟨.unknownPath, .unknownPath, rfl⟩
    · next endpoint hendpoint =>
      split
      · exact ⟨.wrongMethod, .wrongMethod, rfl⟩
      · next hmethod =>
        split
        · next token htoken =>
          have asked := Request.asks?_eq_some_iff.mpr ⟨not_not.mp hmethod, hendpoint, htoken⟩
          rw [asks] at asked
          cases asked
        · next response hresponse => exact ⟨response, turnsAway_of_presentedToken hresponse, rfl⟩

/-! ## 4. Headers -/

/-- The headers that are meant for every response. -/
def commonHeaders (settings : Settings) : List Header :=
  [("access-control-allow-credentials", "true"),
    ("access-control-allow-origin", settings.corsOrigin.text),
    ("vary", "origin, access-control-request-method, access-control-request-headers"),
    ("cache-control", "no-store"), ("x-content-type-options", "nosniff"),
    ("x-frame-options", "DENY")]

/-- Every response is made with the headers of all, last of all. -/
theorem serve_eq (settings : Settings) (r : Request) (clock : Clock) :
    serve settings r clock =
      (if r.method = "OPTIONS" then pure (preflight r) else respond settings.policy r clock) >>=
        fun response => pure (response.guarded settings.corsOrigin) := by
  unfold serve
  split <;> rfl

theorem Response.guarded_headers (settings : Settings) (response : Response) :
    (response.guarded settings.corsOrigin).headers =
      response.headers ++ commonHeaders settings := by
  simp [guarded, sharingHeaders, guardHeaders, commonHeaders]

end Http

/-! ## 5. The subject of a rotation -/

namespace Service

open Program

variable {k : StoreKind} {rows : Table}

/-- The subject is that of the row under the hash of the presented token. -/
def TellsSubject (rows : Table) (token : String) (subject : String) : Prop :=
  ∃ row, rows.byHash? (hashOf token) = some row ∧ subject = row.subject

theorem consume_tellsSubject (policy : Policy) (token : String) (clock : Clock) :
    (consume policy token clock).Ends k rows fun _ outcome _ =>
      ∀ consumed, outcome = .done consumed → TellsSubject rows token consumed.subject := by
  refine ends_log (ends_store_bind (fun actor answer after h => ?_) (fun actor e _ => nofun)
    fun actor cause => nofun)
  cases h with
  | unknown | refused | reuse => exact ends_log (ends_finish nofun)
  | @first _ _ _ row now c g found shown verdict =>
    refine ends_log (ends_finish fun consumed hconsumed => ?_)
    cases hconsumed
    exact ⟨row, found, (row.evolves_stamp c g).subject⟩
  | @grace _ _ _ row now found shown verdict =>
    refine ends_log (ends_finish fun consumed hconsumed => ?_)
    cases hconsumed
    exact ⟨row, found, rfl⟩

/-- **A rotation tells the subject that is kept** with the presented token. What is done after the
    consumption has no part in it. -/
theorem rotate_tellsSubject (policy : Policy) (token : String) (clock : Clock) :
    (rotate policy token clock).Ends k rows fun _ outcome _ =>
      ∀ rotated, outcome = .done rotated → TellsSubject rows token rotated.subject := by
  refine ends_bind ((consume_tellsSubject policy token clock).imp fun deeds outcome kept h => ?_)
  cases outcome with
  | failed | aborted => exact nofun
  | done consumed =>
    have told := h consumed rfl
    change Ends k kept (fun _ outcome _ => ∀ rotated : RotatedToken, outcome = .done rotated →
      TellsSubject rows token rotated.subject) (Program.now clock >>= _)
    refine ends_now_bind (fun now _ => ?_) fun cause _ => nofun
    refine ends_bind ((ends_any _).imp fun deeds outcome mid _ => ?_)
    cases outcome with
    | failed | aborted => exact nofun
    | done issued =>
      change Ends k mid (fun _ outcome _ => ∀ rotated : RotatedToken, outcome = .done rotated →
        TellsSubject rows token rotated.subject) (Program.store (.link consumed.id issued.id) >>= _)
      refine ends_store_bind (fun actor linked after _ => ?_) (fun actor e _ => nofun)
        fun actor cause => nofun
      have hrotated (rotated : RotatedToken) (same : rotated.subject = consumed.subject) :
          ∀ r, Outcome.done rotated = .done r → TellsSubject rows token r.subject := by
        rintro r hr
        cases hr
        rw [same]
        exact told
      cases linked with
      | true => exact ends_finish (hrotated _ rfl)
      | false => exact ends_log (ends_finish (hrotated _ rfl))

end Service

/-! ## 6. Steps -/

namespace Session

open Http

/-- A step that does a piece of work comes to what its program comes to. -/
theorem take_work (s : Session) (work : Work) (clock : Clock) (faults : List Store.Fault) :
    s.take { command := .work work, clock, faults } =
      let end_ := (work.program s.settings clock).run
        { store := s.store.withFaults faults, draws := s.draws }
      ({ outcome := end_.1
         log := end_.2.log
         rows := end_.2.store.rows.length
         changed := changes s.store.rows end_.2.store.rows },
        { s with store := end_.2.store, draws := end_.2.draws }) := rfl

/-- What the log is told of how the work of a request ended. -/
def failureEvents : Outcome Value → List Event
  | .failed failure => [failureEvent failure]
  | _ => []

/-- The status, the code and the message that a client is told for a failure. -/
def failureTold : Failure → Nat × String × Option String
  | .database _ => (500, "DATABASE_ERROR", none)
  | .refused _ => (401, "INVALID_CREDENTIALS", none)
  | .invalidInput detail => (400, "INVALID_INPUT", some detail)
  | .notFound => (404, "NOT_FOUND", none)
  | .hashCollision => (500, "INTERNAL_ERROR", none)

/-- The request was turned away: the store with the faults on its wire, the draws and the log are as
    they were, and the response says no more than a status. -/
structure TurnedAway (s : Session) (faults : List Store.Fault) (served : Report × Session) :
    Prop where
  store : served.2.store = s.store.withFaults faults
  rows : served.2.store.rows = s.store.rows
  draws : served.2.draws = s.draws
  log : served.1.log = []
  told : ∃ response, served.1.outcome = .done (.response response) ∧
    response.status ∈ [200, 400, 404, 405, 413, 415, 422] ∧ response.content.members? = none

/-- **The request was served by the work of an endpoint**: `direct` is the same step with that work
    in place of the request. -/
structure ServedBy (s : Session) (endpoint : Endpoint) (token : String)
    (direct served : Report × Session) : Prop where
  /-- The store and the draws are left as by the work. -/
  session : served.2 = direct.2
  rows : served.1.rows = direct.1.rows
  changed : served.1.changed = direct.1.changed
  log : served.1.log = direct.1.log ++ failureEvents direct.1.outcome
  /-- A token that was rotated is answered with its successor. -/
  refreshed : endpoint = .refresh → ∀ value, direct.1.outcome = .done value →
    ∃ (rotated : Service.RotatedToken) (row : Row) (response : Response),
      value = .rotated rotated ∧ s.store.rows.byHash? (hashOf token) = some row ∧
        served.1.outcome = .done (.response response) ∧ response.status = 200 ∧
          response.content.members? = some
            [("refresh_token", .text rotated.issued.token), ("token_type", .text "Refresh"),
              ("expires_in", .number s.settings.policy.lifetime.wholeSeconds),
              ("subject", .text row.subject)]
  /-- A logout is answered with nothing. -/
  loggedOut : endpoint ≠ .refresh → ∀ value, direct.1.outcome = .done value →
    ∃ response, served.1.outcome = .done (.response response) ∧ response.status = 204 ∧
      response.content = .empty
  /-- A failure is told by a status and a code, and by a message if the input was invalid. -/
  failed : ∀ failure, direct.1.outcome = .failed failure →
    ∃ response, served.1.outcome = .done (.response response) ∧
      response.status = (failureTold failure).1 ∧
        response.content.members? = some (("code", .text (failureTold failure).2.1) ::
          ((failureTold failure).2.2.map fun detail => ("message", .text detail)).toList)
  /-- Work that was broken off has no response. -/
  aborted : ∀ cause, direct.1.outcome = .aborted cause → served.1.outcome = .aborted cause

/-- A step that serves a request comes to what serving it comes to. -/
theorem take_serve (s : Session) (r : Http.Request) (clock : Clock) (faults : List Store.Fault) :
    s.take { command := .work (.serve r), clock, faults } =
      let end_ := (serve s.settings r clock).run
        { store := s.store.withFaults faults, draws := s.draws }
      ({ outcome := end_.1.map .response
         log := end_.2.log
         rows := end_.2.store.rows.length
         changed := changes s.store.rows end_.2.store.rows },
        { s with store := end_.2.store, draws := end_.2.draws }) := by
  rw [take_work]
  simp only [Work.program, Program.run_map]

theorem turnedAway (s : Session) {r : Http.Request} (asks : r.asks? = none) (clock : Clock)
    (faults : List Store.Fault) :
    s.TurnedAway faults (s.take { command := .work (.serve r), clock, faults }) := by
  obtain ⟨response, turns, hrun⟩ := run_serve_of_asks_eq_none asks s.settings clock
    { store := s.store.withFaults faults, draws := s.draws }
  rw [take_serve, hrun]
  exact ⟨rfl, AnyStore.rows_withFaults _ _, rfl, rfl, _, rfl, turns.status, turns.members?⟩

theorem members?_ofFailure (failure : Failure) (settings : Settings) :
    ((Response.ofFailure failure).guarded settings.corsOrigin).status = (failureTold failure).1 ∧
      ((Response.ofFailure failure).guarded settings.corsOrigin).content.members? =
        some (("code", .text (failureTold failure).2.1) ::
          ((failureTold failure).2.2.map fun detail => ("message", .text detail)).toList) := by
  cases failure <;> exact ⟨rfl, rfl⟩

/-- A rotation that goes through ends in a rotated token, with the subject that is kept. -/
theorem rotated_of_done {settings : Settings} {token : String} {clock : Clock}
    {w : Program.World AnyStore} {value : Value}
    (done : ((Work.program settings clock (.rotate token)).run w).1 = .done value) :
    ∃ (rotated : Service.RotatedToken) (row : Row), value = .rotated rotated ∧
      w.store.rows.byHash? (hashOf token) = some row ∧ rotated.subject = row.subject := by
  obtain ⟨rotated, rfl, htells⟩ := Program.ends_map_done
    (Service.rotate_tellsSubject settings.policy token clock) Value.rotated 0 w rfl rfl value done
  obtain ⟨row, found, hsubject⟩ := htells rotated rfl
  exact ⟨rotated, row, rfl, found, hsubject⟩

/-- A logout that goes through ends in a count, and the client is told nothing of it. -/
theorem reply_of_done {settings : Settings} {endpoint : Endpoint} {token : String} {clock : Clock}
    {w : Program.World AnyStore} {value : Value} (logout : endpoint ≠ .refresh)
    (done : (((endpoint.work token).program settings clock).run w).1 = .done value) :
    reply settings.policy value = .noContent := by
  have counted (p : Instant → Program Nat) :
      (Program.now clock >>= fun now => p now >>= fun n => pure (.count n)).Ends w.store.kind
        w.store.rows fun _ outcome _ => ∀ value, outcome = .done value →
          reply settings.policy value = .noContent := by
    refine Program.ends_now_bind (fun now _ => ?_) fun cause _ _ => nofun
    refine (Program.ends_map_done (Program.ends_any (p now)) Value.count).imp
      fun deeds outcome after h value hvalue => ?_
    obtain ⟨n, rfl, -⟩ := h value hvalue
    rfl
  cases endpoint with
  | refresh => exact absurd rfl logout
  | logout => exact counted (Service.logout token) 0 w rfl rfl value done
  | logoutEverywhere => exact counted (Service.logoutEverywhere token) 0 w rfl rfl value done

/-- A request that asks for something is served by the work of its endpoint. -/
theorem servedBy (s : Session) {r : Http.Request} {endpoint : Endpoint} {token : String}
    (asks : r.asks? = some (endpoint, token)) (clock : Clock) (faults : List Store.Fault) :
    s.ServedBy endpoint token (s.take { command := .work (endpoint.work token), clock, faults })
      (s.take { command := .work (.serve r), clock, faults }) := by
  let w : Program.World AnyStore := { store := s.store.withFaults faults, draws := s.draws }
  have hrows : w.store.rows = s.store.rows := AnyStore.rows_withFaults _ _
  rw [take_serve, run_serve_of_asks asks, take_work]
  rcases hrun : ((endpoint.work token).program s.settings clock).run w with ⟨outcome, w'⟩
  have hend : (((endpoint.work token).program s.settings clock).run w).1 = outcome :=
    congrArg Prod.fst hrun
  cases outcome with
  | done value =>
    refine ⟨rfl, rfl, rfl, (List.append_nil _).symm, ?_, ?_, fun _ => nofun, fun _ => nofun⟩
    · rintro rfl v hv
      cases hv
      obtain ⟨rotated, row, rfl, found, hsubject⟩ := rotated_of_done hend
      refine ⟨rotated, row, _, rfl, hrows ▸ found, rfl, rfl, ?_⟩
      rw [← hsubject]
      rfl
    · rintro logout v hv
      cases hv
      refine ⟨_, rfl, ?_⟩
      rw [reply_of_done logout hend]
      exact ⟨rfl, rfl⟩
  | failed failure =>
    refine ⟨rfl, rfl, rfl, rfl, fun _ _ => nofun, fun _ _ => nofun, ?_, fun _ => nofun⟩
    rintro e he
    cases he
    exact ⟨_, rfl, members?_ofFailure failure s.settings⟩
  | aborted cause =>
    refine ⟨rfl, rfl, rfl, (List.append_nil _).symm, fun _ _ => nofun, fun _ _ => nofun,
      fun _ => nofun, ?_⟩
    rintro c hc
    cases hc
    rfl

/-- Whatever is served, the response is one that was given the headers of all. -/
theorem guarded_of_served (s : Session) (r : Http.Request) (clock : Clock)
    (faults : List Store.Fault) {response : Response}
    (told : (s.take { command := .work (.serve r), clock, faults }).1.outcome =
      .done (.response response)) :
    ∃ own : Response, response = own.guarded s.settings.corsOrigin := by
  rw [take_serve, serve_eq, Program.run_map] at told
  revert told
  rcases Program.run _ _ with ⟨outcome, w'⟩
  cases outcome with
  | failed | aborted => nofun
  | done own =>
    rintro ⟨⟩
    exact ⟨own, rfl⟩

/-- **The service has no other surface.** A step that serves a request is the step that does the
    work of the path that a token is posted to, or is turned away. Every response carries the
    headers that are meant for all, and what clients write presents their token. -/
theorem surface (s : Session) (r : Http.Request) (clock : Clock) (faults : List Store.Fault) :
    let served := s.take { command := .work (.serve r), clock, faults }
    let direct (work : Work) := s.take { command := .work work, clock, faults }
    (∀ token, r.method = "POST" → r.Presents token →
      (r.path = "/api/auth/refresh" → s.ServedBy .refresh token (direct (.rotate token)) served) ∧
        (r.path = "/api/auth/logout" →
          s.ServedBy .logout token (direct (.logout token)) served) ∧
        (r.path = "/api/auth/logout-all" →
          s.ServedBy .logoutEverywhere token (direct (.logoutEverywhere token)) served)) ∧
      (¬ (r.method = "POST" ∧
          r.path ∈ ["/api/auth/refresh", "/api/auth/logout", "/api/auth/logout-all"] ∧
          ∃ token, r.Presents token) → s.TurnedAway faults served) ∧
      (∀ response, served.1.outcome = .done (.response response) →
        ∀ h ∈ commonHeaders s.settings, h ∈ response.headers) ∧
      ∀ token, r.Writes token → r.Presents token := by
  refine ⟨fun token post presents => ?_, fun elsewhere => ?_, fun response told h hh => ?_,
    fun token writes => writes.presents⟩
  · have asks (endpoint : Endpoint) (path : r.path = endpoint.path) :
        r.asks? = some (endpoint, token) :=
      Request.asks?_eq_some_iff.mpr
        ⟨post, by rw [path, Endpoint.ofPath?_path], presentedToken_eq_ok_iff.mpr presents⟩
    exact ⟨fun path => s.servedBy (asks .refresh path) clock faults,
      fun path => s.servedBy (asks .logout path) clock faults,
      fun path => s.servedBy (asks .logoutEverywhere path) clock faults⟩
  · refine s.turnedAway (Option.eq_none_iff_forall_ne_some.mpr ?_) clock faults
    rintro ⟨endpoint, token⟩ asks
    obtain ⟨post, path, presented⟩ := Request.asks?_eq_some_iff.mp asks
    refine elsewhere ⟨post, ?_, token, presentedToken_eq_ok_iff.mp presented⟩
    rw [Endpoint.path_of_ofPath? path]
    cases endpoint <;> decide
  · obtain ⟨own, rfl⟩ := guarded_of_served s r clock faults told
    rw [Response.guarded_headers]
    exact List.mem_append_right _ hh

/-- A client posts the token of a sample to the path of refreshes, with a query, and gets the first
    secret; the same request to a path beside the three is turned away, and so is one that asks to
    get. -/
theorem surface_of_two_requests :
    let request (method target : String) : Http.Request :=
      { method, target, headers := [("Content-Type", "application/json")]
        body := "\x7b\"refresh_token\":\"first\"\x7d".toUTF8.data.toList }
    let sample := sampleRow "first" sampleSubject (.ofLists [] [])
    let s : Session := { store := .durableOf [sample.1] { reachable := true }, draws := sample.2
                         settings := .trial .default }
    let step (r : Http.Request) : Step :=
      { command := .work (.serve r), clock := .fixed sampleInstant }
    (∃ response : Response, (s.take (step (request "POST" "/api/auth/refresh?again"))).1.outcome =
        .done (.response response) ∧ response.status = 200 ∧ response.content.members? = some
          [("refresh_token", .text (Secret.ofNat 1).token), ("token_type", .text "Refresh"),
            ("expires_in", .number 604800), ("subject", .text "user@example.com")]) ∧
      s.TurnedAway [] (s.take (step (request "POST" "/api/auth/refresh/"))) ∧
        s.TurnedAway [] (s.take (step (request "GET" "/api/auth/refresh"))) := by
  intro request sample s step
  have writes : (request "POST" "/api/auth/refresh?again").Writes "first" :=
    ⟨by decide +kernel, by decide +kernel, by decide, by decide⟩
  obtain ⟨posted, -, -, presents⟩ :=
    surface s (request "POST" "/api/auth/refresh?again") (.fixed sampleInstant) []
  have served := (posted "first" rfl (presents "first" writes)).1 (by decide)
  have away := (surface s (request "POST" "/api/auth/refresh/") (.fixed sampleInstant) []).2.1
  have got := (surface s (request "GET" "/api/auth/refresh") (.fixed sampleInstant) []).2.1
  refine ⟨?_, away (fun h => absurd h.2.1 (by decide)), got (fun h => absurd h.1 (by decide))⟩
  have rotates : (s.take { command := .work (.rotate "first")
                           clock := .fixed sampleInstant }).1.outcome =
      .done (.rotated
        { issued := { token := (Secret.ofNat 1).token, id := sample.2.uuid.1
                      family := sample.1.family, expiresAt := sampleExpiry }
          subject := sampleSubject, previousId := sample.1.id }) := by
    decide +kernel
  obtain ⟨rotated, row, response, same, found, told, status, members⟩ :=
    served.refreshed rfl _ rotates
  cases same
  have kept : s.store.rows.byHash? (hashOf "first") = some sample.1 := by decide +kernel
  cases kept.symm.trans found
  exact ⟨response, told, status, members⟩

end Session

end TokenRotation
