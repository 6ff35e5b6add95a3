import TokenRotation.Proofs.Addresses
import TokenRotation.Session.Boot

/-!
# The grammar of the settings

Which environments there are settings for, and which settings. Every variable is looked at on its
own: what it says is a text of the grammar of its value, or it says no text at all and the default
stands. Only the address of the database has no default.

Ten checks stand between an environment and its settings, in one order, and whatever fails is told
by the first that fails. Both numbers of the policy are read before a sign is looked at, and both
signs are looked at before a length.

* `Environment.text?_eq_some_iff` -- a variable says a text exactly when its bytes are the text's;
* `HeaderValue.ofText?_eq_some_iff` -- header values, byte by byte;
* `read_eq_ok_iff` -- the settings of an environment;
* `read_of_firstFailing` -- the first check that fails is the one that is told;
* `reads` -- **the settings of every environment**.
-/

namespace TokenRotation.Settings

/-! ## 1. What an environment says -/

/-- The bytes of a text: those of its characters, one after the other. -/
def utf8 (text : String) : List UInt8 := text.toList.flatMap String.utf8EncodeChar

/-- The variable is set to the bytes of the text. -/
def Environment.SetTo (env : Environment) (v : Variable) (text : String) : Prop :=
  env v = some (utf8 text)

theorem toByteArray_eq (text : String) : text.toByteArray = ⟨(utf8 text).toArray⟩ := by
  rw [← String.utf8Encode_toList, List.utf8Encode]
  exact ByteArray.ext List.data_toByteArray

/-- **A variable says a text exactly when its bytes are the text's.** -/
theorem Environment.text?_eq_some_iff {env : Environment} {v : Variable} {text : String} :
    env.text? v = some text ↔ env.SetTo v text := by
  have bytes_iff (bytes : List UInt8) :
      String.fromUTF8? ⟨bytes.toArray⟩ = some text ↔ bytes = utf8 text := by
    unfold String.fromUTF8?
    constructor
    · intro h
      split at h
      · cases h
        have same := toByteArray_eq (String.fromUTF8 ⟨bytes.toArray⟩ ‹_›)
        exact List.toArray_inj (ByteArray.mk.inj same)
      · cases h
    · rintro rfl
      have valid : ByteArray.IsValidUTF8 ⟨(utf8 text).toArray⟩ :=
        toByteArray_eq text ▸ text.isValidUTF8
      rw [dif_pos valid, Option.some.injEq, ← String.toByteArray_inj, toByteArray_eq text]
      rfl
  rw [Environment.text?, Option.bind_eq_some_iff, Environment.SetTo]
  simp only [bytes_iff, exists_eq_right]

theorem Environment.text?_eq_none_iff {env : Environment} {v : Variable} :
    env.text? v = none ↔ ∀ text, ¬ env.SetTo v text := by
  simp only [← text?_eq_some_iff, Option.eq_none_iff_forall_ne_some, ne_eq]

/-- The value of a variable: what its text stands for, or the default where it says no text. -/
inductive Environment.Gives (env : Environment) (v : Variable) {α : Type}
    (stands : String → α → Prop) (fallback : α) : α → Prop
  | unset : (∀ text, ¬ env.SetTo v text) → env.Gives v stands fallback fallback
  | set {text : String} {a : α} : env.SetTo v text → stands text a → env.Gives v stands fallback a

section OrDefault

variable {α : Type} {env : Environment} {v : Variable} {fallback : α} {read : String → Option α}
  {stands : String → α → Prop}

/-- The value that is read is the one that is given. -/
theorem orDefault_eq_ok_iff (reads : ∀ text a, read text = some a ↔ stands text a) {a : α} :
    orDefault env v fallback read = .ok a ↔ env.Gives v stands fallback a := by
  unfold orDefault
  constructor
  · intro h
    split at h
    · next hunset =>
      cases h
      exact .unset (Environment.text?_eq_none_iff.mp hunset)
    · next text hset =>
      split at h
      · next value hread =>
        cases h
        exact .set (Environment.text?_eq_some_iff.mp hset) ((reads _ _).mp hread)
      · cases h
  · rintro (hunset | @⟨text, _, hset, hstands⟩)
    · simp only [Environment.text?_eq_none_iff.mpr hunset]
    · simp only [Environment.text?_eq_some_iff.mpr hset, (reads _ _).mpr hstands]

/-- A text that stands for nothing is told. -/
theorem orDefault_of_not (reads : ∀ text a, read text = some a ↔ stands text a)
    (fails : ¬ ∀ text, env.SetTo v text → ∃ a, stands text a) :
    orDefault env v fallback read = .error (.unreadable v) := by
  push Not at fails
  obtain ⟨text, hset, nothing⟩ := fails
  have unread : read text = none :=
    Option.eq_none_iff_forall_ne_some.mpr fun a h => nothing a ((reads text a).mp h)
  simp only [orDefault, Environment.text?_eq_some_iff.mpr hset, unread]

theorem exists_gives (fallback : α) (holds : ∀ text, env.SetTo v text → ∃ a, stands text a) :
    ∃ a, env.Gives v stands fallback a := by
  by_cases hunset : ∀ text, ¬ env.SetTo v text
  · exact ⟨fallback, .unset hunset⟩
  · push Not at hunset
    obtain ⟨text, hset⟩ := hunset
    obtain ⟨a, ha⟩ := holds text hset
    exact ⟨a, .set hset ha⟩

end OrDefault

/-! ## 2. Header values, byte by byte -/

/-- The bytes of a header value: the tab, and whatever does not control. -/
def IsHeader (text : String) : Prop :=
  ∀ byte ∈ utf8 text, byte = 9 ∨ (0x20 ≤ byte ∧ byte ≠ 0x7f)

theorem toNat_ofNat_of_lt {n : Nat} (h : n < 256) : (UInt8.ofNat n).toNat = n :=
  Nat.mod_eq_of_lt h

/-- A byte of a character beyond ASCII is beyond ASCII. -/
theorem le_of_mem_utf8EncodeChar {c : Char} (wide : 127 < c.toNat) {byte : UInt8}
    (h : byte ∈ String.utf8EncodeChar c) : 128 ≤ byte.toNat := by
  have wide : ¬ c.val.toNat ≤ 127 := Nat.not_le.mpr wide
  have bytes {n : Nat} (hn : 128 ≤ n) (hlt : n < 256) : 128 ≤ (UInt8.ofNat n).toNat := by
    rwa [toNat_ofNat_of_lt hlt]
  simp only [String.utf8EncodeChar, if_neg wide] at h
  split at h
  · simp only [List.mem_cons, List.not_mem_nil, or_false] at h
    rcases h with rfl | rfl <;> exact bytes (by omega) (by omega)
  · split at h
    · simp only [List.mem_cons, List.not_mem_nil, or_false] at h
      rcases h with rfl | rfl | rfl <;> exact bytes (by omega) (by omega)
    · simp only [List.mem_cons, List.not_mem_nil, or_false] at h
      rcases h with rfl | rfl | rfl | rfl <;> exact bytes (by omega) (by omega)

/-- The bytes of a character are those of a header value when the character is. -/
theorem isHeaderChar_iff (c : Char) :
    isHeaderChar c ↔ ∀ byte ∈ String.utf8EncodeChar c, byte = 9 ∨ (0x20 ≤ byte ∧ byte ≠ 0x7f) := by
  have tab : c = '\t' ↔ c.toNat = 9 := ⟨fun h => h ▸ rfl, fun h => Char.toNat_inj.mp h⟩
  have byte_iff (byte : UInt8) : (byte = 9 ∨ (0x20 ≤ byte ∧ byte ≠ 0x7f)) ↔
      (byte.toNat = 9 ∨ (0x20 ≤ byte.toNat ∧ byte.toNat ≠ 0x7f)) := by
    simp only [ne_eq, ← UInt8.toNat_inj, UInt8.le_iff_toNat_le]
    rfl
  simp only [byte_iff, isHeaderChar, Bool.or_eq_true, Bool.and_eq_true, decide_eq_true_eq, tab]
  rcases Nat.lt_or_ge 127 c.toNat with wide | narrow
  · refine iff_of_true (by omega) fun byte h => ?_
    have := le_of_mem_utf8EncodeChar wide h
    omega
  · have narrow' : c.val.toNat ≤ 127 := narrow
    have hbyte : (UInt8.ofNat c.val.toNat).toNat = c.toNat := toNat_ofNat_of_lt (by omega)
    simp only [String.utf8EncodeChar, if_pos narrow', List.mem_singleton, forall_eq, hbyte]

theorem all_isHeaderChar_iff {text : String} :
    text.toList.all isHeaderChar ↔ IsHeader text := by
  simp only [List.all_eq_true, isHeaderChar_iff, IsHeader, utf8, List.mem_flatMap]
  exact ⟨fun h byte ⟨c, hc, hbyte⟩ => h c hc byte hbyte,
    fun h c hc byte hbyte => h byte ⟨c, hc, hbyte⟩⟩

/-- **A text is a header value exactly when its bytes are.** -/
theorem HeaderValue.ofText?_eq_some_iff {text : String} {value : HeaderValue} :
    HeaderValue.ofText? text = some value ↔ value.text = text ∧ IsHeader text := by
  rw [← all_isHeaderChar_iff]
  constructor
  · intro h
    unfold ofText? at h
    split at h
    · next valid =>
      cases h
      exact ⟨rfl, valid⟩
    · cases h
  · rintro ⟨rfl, -⟩
    exact HeaderValue.ofText?_text value

/-! ## 3. The settings of an environment -/

/-- A number of connections: 32 bits without a sign. -/
def IsConnections (text : String) (n : Nat) : Prop := Unsigned text.toList n ∧ n ≤ 4294967295

/-- A number of days or seconds: 64 bits with a sign. -/
def IsNumber (text : String) (n : Int) : Prop :=
  Signed text.toList n ∧ -9223372036854775808 ≤ n ∧ n ≤ 9223372036854775807

/-- A host and a port. -/
def IsAddress (text : String) (address : SocketAddress) : Prop :=
  IsSocketAddress text.toList address

/-- An origin: a header value, as it stands. -/
def IsOrigin (text origin : String) : Prop := origin = text ∧ IsHeader text

/-- **The settings of an environment**: each is what its variable gives, and the policy has that
    many days of life and that many seconds of grace, in nanoseconds. -/
structure Configures (env : Environment) (s : Settings) : Prop where
  databaseUrl : env.SetTo .databaseUrl s.databaseUrl
  databaseMaxConnections :
    env.Gives .databaseMaxConnections IsConnections 5 s.databaseMaxConnections
  bindAddr : env.Gives .bindAddr IsAddress (.v4 ⟨127, 0, 0, 1⟩ 3001) s.bindAddr
  corsOrigin : env.Gives .corsOrigin IsOrigin "http://localhost:3000" s.corsOrigin.text
  lifetime : ∃ days : Int, env.Gives .tokenTtlDays IsNumber 7 days ∧
    1 ≤ days ∧ days ≤ 106751991167 ∧ s.policy.lifetime.nanos = days * 86400 * 1000000000
  grace : ∃ seconds : Int, env.Gives .tokenGraceSecs IsNumber 10 seconds ∧
    0 ≤ seconds ∧ seconds ≤ 9223372036854775 ∧ s.policy.grace.nanos = seconds * 1000000000

/-- **The environments that there are settings for.** Each variable but the address of the database
    may say no text, or has to say a text of its grammar. -/
structure Environment.WellFormed (env : Environment) : Prop where
  databaseUrl : ∃ url, env.SetTo .databaseUrl url
  databaseMaxConnections :
    ∀ text, env.SetTo .databaseMaxConnections text → ∃ n, IsConnections text n
  bindAddr : ∀ text, env.SetTo .bindAddr text → ∃ address, IsAddress text address
  corsOrigin : ∀ text, env.SetTo .corsOrigin text → IsHeader text
  tokenTtlDays : ∀ text, env.SetTo .tokenTtlDays text →
    ∃ days, Signed text.toList days ∧ 1 ≤ days ∧ days ≤ 106751991167
  tokenGraceSecs : ∀ text, env.SetTo .tokenGraceSecs text →
    ∃ seconds, Signed text.toList seconds ∧ 0 ≤ seconds ∧ seconds ≤ 9223372036854775

/-! ## 4. The checks in their order -/

/-- What is checked of an environment. -/
inductive Check
  | databaseUrl
  | databaseMaxConnections
  | bindAddr
  | corsOrigin
  | ttlNumber
  | graceNumber
  | ttlSign
  | graceSign
  | ttlLength
  | graceLength
deriving DecidableEq, Repr

namespace Check

/-- The checks in their order. -/
def inOrder : List Check :=
  [.databaseUrl, .databaseMaxConnections, .bindAddr, .corsOrigin, .ttlNumber, .graceNumber,
    .ttlSign, .graceSign, .ttlLength, .graceLength]

/-- The environment passes the check. A length is one that can be counted in milliseconds, in 63
    bits. -/
def Holds (env : Environment) : Check → Prop
  | .databaseUrl => ∃ url, env.SetTo .databaseUrl url
  | .databaseMaxConnections =>
    ∀ text, env.SetTo .databaseMaxConnections text → ∃ n, IsConnections text n
  | .bindAddr => ∀ text, env.SetTo .bindAddr text → ∃ address, IsAddress text address
  | .corsOrigin => ∀ text, env.SetTo .corsOrigin text → IsHeader text
  | .ttlNumber => ∀ text, env.SetTo .tokenTtlDays text → ∃ days, IsNumber text days
  | .graceNumber => ∀ text, env.SetTo .tokenGraceSecs text → ∃ seconds, IsNumber text seconds
  | .ttlSign => ∀ text days, env.SetTo .tokenTtlDays text → Signed text.toList days → 0 < days
  | .graceSign =>
    ∀ text seconds, env.SetTo .tokenGraceSecs text → Signed text.toList seconds → 0 ≤ seconds
  | .ttlLength => ∀ text days, env.SetTo .tokenTtlDays text → Signed text.toList days →
    days * 86400 * 1000 ≤ 9223372036854775807
  | .graceLength => ∀ text seconds, env.SetTo .tokenGraceSecs text →
    Signed text.toList seconds → seconds * 1000 ≤ 9223372036854775807

/-- What is told of an environment that does not pass the check. -/
def complaint : Check → String
  | .databaseUrl => "Cannot get the DATABASE_URL env variable"
  | .databaseMaxConnections => "Unable to parse env variable DATABASE_MAX_CONNECTIONS"
  | .bindAddr => "Unable to parse env variable BIND_ADDR"
  | .corsOrigin => "CORS_ORIGIN must be a valid header value: InvalidHeaderValue"
  | .ttlNumber => "Unable to parse env variable REFRESH_TOKEN_TTL_DAYS"
  | .graceNumber => "Unable to parse env variable REFRESH_TOKEN_GRACE_SECS"
  | .ttlSign => "REFRESH_TOKEN_TTL_DAYS must be positive"
  | .graceSign => "REFRESH_TOKEN_GRACE_SECS must not be negative"
  | .ttlLength => "TimeDelta::days out of bounds"
  | .graceLength => "TimeDelta::seconds out of bounds"

/-- The error of an environment that does not pass the check. -/
def error : Check → Error
  | .databaseUrl => .missing .databaseUrl
  | .databaseMaxConnections => .unreadable .databaseMaxConnections
  | .bindAddr => .unreadable .bindAddr
  | .corsOrigin => .corsOriginInvalid
  | .ttlNumber => .unreadable .tokenTtlDays
  | .graceNumber => .unreadable .tokenGraceSecs
  | .ttlSign => .ttlNotPositive
  | .graceSign => .graceNegative
  | .ttlLength => .ttlTooLong
  | .graceLength => .graceTooLong

theorem message_error (check : Check) : check.error.message = check.complaint := by
  cases check <;> decide

/-- The first of the checks that the environment does not pass. -/
inductive FirstFailing (env : Environment) : List Check → Check → Prop
  | here {check : Check} {later : List Check} :
      ¬ check.Holds env → FirstFailing env (check :: later) check
  | later {passed check : Check} {later : List Check} :
      passed.Holds env → FirstFailing env later check → FirstFailing env (passed :: later) check

theorem holds_or_exists_firstFailing (env : Environment) (checks : List Check) :
    (∀ check ∈ checks, check.Holds env) ∨ ∃ check, FirstFailing env checks check := by
  induction checks with
  | nil => exact .inl (fun _ h => nomatch h)
  | cons check later ih =>
    by_cases holds : check.Holds env
    · rcases ih with all | ⟨first, h⟩
      · exact .inl (List.forall_mem_cons.mpr ⟨holds, all⟩)
      · exact .inr ⟨first, .later holds h⟩
    · exact .inr ⟨check, .here holds⟩

theorem mem_inOrder (check : Check) : check ∈ inOrder := by
  cases check <;> decide

end Check

/-- A text is one number. -/
theorem Signed.unique {text : List Char} {m n : Int} (hm : Signed text m) (hn : Signed text n) :
    m = n :=
  Option.some.inj ((Decimal.signed_iff.mp hm).symm.trans (Decimal.signed_iff.mp hn))

theorem Environment.SetTo.unique {env : Environment} {v : Variable} {text other : String}
    (h : env.SetTo v text) (h' : env.SetTo v other) : text = other :=
  Option.some.inj ((text?_eq_some_iff.mpr h).symm.trans (text?_eq_some_iff.mpr h'))

/-- What is said of the number of a variable is said of the number that is given, where it holds of
    the default. -/
theorem forall_iff_of_gives {env : Environment} {v : Variable} {fallback n : Int}
    (given : env.Gives v IsNumber fallback n) {P : Int → Prop} (default : P fallback) :
    (∀ text m, env.SetTo v text → Signed text.toList m → P m) ↔ P n := by
  rcases given with hunset | @⟨text, _, hset, hnumber⟩
  · exact iff_of_true (fun text m hset => absurd hset (hunset text)) default
  · refine ⟨fun h => h text n hset hnumber.1, fun h text' m hset' hm => ?_⟩
    rw [hset'.unique hset] at hm
    exact hm.unique hnumber.1 ▸ h

/-- **An environment is well formed exactly when it passes every check.** -/
theorem wellFormed_iff_holds {env : Environment} :
    env.WellFormed ↔ ∀ check : Check, check.Holds env := by
  constructor
  · intro h check
    cases check with
    | databaseUrl => exact h.databaseUrl
    | databaseMaxConnections => exact h.databaseMaxConnections
    | bindAddr => exact h.bindAddr
    | corsOrigin => exact h.corsOrigin
    | ttlNumber =>
      intro text hset
      obtain ⟨days, hdays, least, most⟩ := h.tokenTtlDays text hset
      exact ⟨days, hdays, by omega, by omega⟩
    | graceNumber =>
      intro text hset
      obtain ⟨seconds, hseconds, least, most⟩ := h.tokenGraceSecs text hset
      exact ⟨seconds, hseconds, by omega, by omega⟩
    | ttlSign =>
      intro text days hset hdays
      obtain ⟨_, hsame, least, most⟩ := h.tokenTtlDays text hset
      have := hdays.unique hsame
      omega
    | graceSign =>
      intro text seconds hset hseconds
      obtain ⟨_, hsame, least, most⟩ := h.tokenGraceSecs text hset
      have := hseconds.unique hsame
      omega
    | ttlLength =>
      intro text days hset hdays
      obtain ⟨_, hsame, least, most⟩ := h.tokenTtlDays text hset
      have := hdays.unique hsame
      omega
    | graceLength =>
      intro text seconds hset hseconds
      obtain ⟨_, hsame, least, most⟩ := h.tokenGraceSecs text hset
      have := hseconds.unique hsame
      omega
  · intro h
    refine ⟨h .databaseUrl, h .databaseMaxConnections, h .bindAddr, h .corsOrigin,
      fun text hset => ?_, fun text hset => ?_⟩
    · obtain ⟨days, hdays, -⟩ := h .ttlNumber text hset
      have least : 0 < days := h .ttlSign text days hset hdays
      have most : days * 86400 * 1000 ≤ 9223372036854775807 := h .ttlLength text days hset hdays
      exact ⟨days, hdays, by omega, by omega⟩
    · obtain ⟨seconds, hseconds, -⟩ := h .graceNumber text hset
      have least : 0 ≤ seconds := h .graceSign text seconds hset hseconds
      have most : seconds * 1000 ≤ 9223372036854775807 := h .graceLength text seconds hset hseconds
      exact ⟨seconds, hseconds, by omega, by omega⟩

/-! ## 5. Reading -/

theorem unsigned?_iff_isConnections (text : String) (n : Nat) :
    Decimal.unsigned? greatest32 text = some n ↔ IsConnections text n :=
  Decimal.unsigned?_eq_some_iff

theorem signed?_iff_isNumber (text : String) (n : Int) :
    Decimal.signed? least64 greatest64 text = some n ↔ IsNumber text n :=
  Decimal.signed?_eq_some_iff

theorem ofText?_iff_isAddress (text : String) (address : SocketAddress) :
    SocketAddress.ofText? text = some address ↔ IsAddress text address :=
  SocketAddress.ofText?_eq_some_iff

/-- The address that is read, with the local host by default. -/
theorem bindAddr_eq_ok_iff {env : Environment} {address : SocketAddress} :
    orDefault env .bindAddr (.v4 localHost 3001) SocketAddress.ofText? = .ok address ↔
      env.Gives .bindAddr IsAddress (.v4 ⟨127, 0, 0, 1⟩ 3001) address :=
  orDefault_eq_ok_iff ofText?_iff_isAddress

/-- The origin that is read, from the variable or by default. -/
theorem origin_eq_some_iff {env : Environment} {value : HeaderValue} :
    HeaderValue.ofText? ((env.text? .corsOrigin).getD defaultCorsOrigin) = some value ↔
      env.Gives .corsOrigin IsOrigin "http://localhost:3000" value.text := by
  rw [HeaderValue.ofText?_eq_some_iff]
  constructor
  · rintro ⟨htext, header⟩
    cases hread : env.text? .corsOrigin with
    | none =>
      rw [hread, Option.getD_none] at htext
      rw [htext]
      exact .unset (Environment.text?_eq_none_iff.mp hread)
    | some text =>
      rw [hread, Option.getD_some] at htext header
      exact .set (Environment.text?_eq_some_iff.mp hread) ⟨htext, header⟩
  · have header : IsHeader value.text :=
      (HeaderValue.ofText?_eq_some_iff.mp (HeaderValue.ofText?_text value)).2
    intro h
    suffices htext : value.text = (env.text? .corsOrigin).getD defaultCorsOrigin from
      ⟨htext, htext ▸ header⟩
    generalize value.text = origin at h
    rcases h with hunset | @⟨text, _, hset, rfl, -⟩
    · rw [Environment.text?_eq_none_iff.mpr hunset]
      rfl
    · rw [Environment.text?_eq_some_iff.mpr hset]
      rfl

section Reading

variable {env : Environment} {url : String} {connections : Nat} {address : SocketAddress}
  {origin : HeaderValue} {days seconds : Int}
  (hurl : env.SetTo .databaseUrl url)
  (hconnections : env.Gives .databaseMaxConnections IsConnections 5 connections)
  (haddress : env.Gives .bindAddr IsAddress (.v4 ⟨127, 0, 0, 1⟩ 3001) address)
  (horigin : env.Gives .corsOrigin IsOrigin "http://localhost:3000" origin.text)
  (hdays : env.Gives .tokenTtlDays IsNumber 7 days)
  (hseconds : env.Gives .tokenGraceSecs IsNumber 10 seconds)

include hurl hconnections haddress horigin hdays hseconds

/-- What is read when the first six checks are passed. -/
theorem read_eq : read env =
    if days ≤ 0 then .error .ttlNotPositive
    else if seconds < 0 then .error .graceNegative
    else if Duration.maxDays < days then .error .ttlTooLong
    else if Duration.maxSeconds < seconds then .error .graceTooLong
    else .ok ⟨url, connections, address, origin, .ofDays days, .ofSeconds seconds⟩ := by
  simp only [read, Environment.text?_eq_some_iff.mpr hurl,
    (orDefault_eq_ok_iff unsigned?_iff_isConnections).mpr hconnections,
    bindAddr_eq_ok_iff.mpr haddress, origin_eq_some_iff.mpr horigin,
    (orDefault_eq_ok_iff signed?_iff_isNumber).mpr hdays,
    (orDefault_eq_ok_iff signed?_iff_isNumber).mpr hseconds, bind, Except.bind]

/-- The signs and the lengths, when the first six checks are passed. -/
theorem read_of_firstFailing_policy {check : Check}
    (h : Check.FirstFailing env [.ttlSign, .graceSign, .ttlLength, .graceLength] check) :
    read env = .error check.error := by
  have ttlSign : Check.ttlSign.Holds env ↔ 0 < days := forall_iff_of_gives hdays (by decide)
  have graceSign : Check.graceSign.Holds env ↔ 0 ≤ seconds :=
    forall_iff_of_gives hseconds (by decide)
  have ttlLength : Check.ttlLength.Holds env ↔ days * 86400 * 1000 ≤ 9223372036854775807 :=
    forall_iff_of_gives hdays (by decide)
  have graceLength : Check.graceLength.Holds env ↔ seconds * 1000 ≤ 9223372036854775807 :=
    forall_iff_of_gives hseconds (by decide)
  rw [read_eq hurl hconnections haddress horigin hdays hseconds]
  have maxDays : Duration.maxDays = 106751991167 := rfl
  have maxSeconds : Duration.maxSeconds = 9223372036854775 := rfl
  rcases h with fails | ⟨passed, h⟩
  · rw [ttlSign] at fails
    rw [if_pos (by omega), Check.error]
  rw [ttlSign] at passed
  rw [if_neg (by omega)]
  rcases h with fails | ⟨passed, h⟩
  · rw [graceSign] at fails
    rw [if_pos (by omega), Check.error]
  rw [graceSign] at passed
  rw [if_neg (by omega)]
  rcases h with fails | ⟨passed, h⟩
  · rw [ttlLength] at fails
    rw [if_pos (by omega), Check.error]
  rw [ttlLength] at passed
  rw [if_neg (by omega)]
  rcases h with fails | ⟨passed, h⟩
  · rw [graceLength] at fails
    rw [if_pos (by omega), Check.error]
  · cases h

end Reading

/-- **The settings of an environment are read.** -/
theorem read_of_configures {env : Environment} {s : Settings} (h : Configures env s) :
    read env = .ok s := by
  obtain ⟨days, hdays, leastDays, mostDays, lifetime⟩ := h.lifetime
  obtain ⟨seconds, hseconds, leastSeconds, mostSeconds, grace⟩ := h.grace
  have hlifetime : Duration.ofDays days = s.tokenTtl :=
    congrArg Duration.mk ((Int.add_zero _).trans lifetime.symm)
  have hgrace : Duration.ofSeconds seconds = s.tokenGrace :=
    congrArg Duration.mk ((Int.add_zero _).trans grace.symm)
  rw [read_eq h.databaseUrl h.databaseMaxConnections h.bindAddr h.corsOrigin hdays hseconds,
    if_neg (by omega), if_neg (by omega), if_neg (by simp only [Duration.maxDays]; omega),
    if_neg (by simp only [Duration.maxSeconds]; omega), hlifetime, hgrace]

/-- Where the origin passes its check, there is one. -/
theorem exists_origin {env : Environment} (holds : Check.corsOrigin.Holds env) :
    ∃ origin : HeaderValue,
      env.Gives .corsOrigin IsOrigin "http://localhost:3000" origin.text := by
  have standing : ∀ text, env.SetTo .corsOrigin text → ∃ origin, IsOrigin text origin :=
    fun text hset => ⟨text, rfl, holds text hset⟩
  obtain ⟨origin, given⟩ := exists_gives "http://localhost:3000" standing
  have header : IsHeader origin := by
    rcases given with _ | @⟨text, _, _, rfl, header⟩
    · exact all_isHeaderChar_iff.mp (by decide)
    · exact header
  exact ⟨⟨origin, all_isHeaderChar_iff.mpr header⟩, given⟩

/-- Where there is an origin, it passes its check. -/
theorem holds_of_origin {env : Environment} {origin : String}
    (given : env.Gives .corsOrigin IsOrigin "http://localhost:3000" origin) :
    Check.corsOrigin.Holds env := by
  intro text hset
  rcases given with hunset | @⟨_, _, hset', -, header⟩
  · exact absurd hset (hunset text)
  · exact hset.unique hset' ▸ header

/-- **A well-formed environment has settings.** -/
theorem exists_configures {env : Environment} (h : env.WellFormed) : ∃ s, Configures env s := by
  have holds := wellFormed_iff_holds.mp h
  obtain ⟨url, hurl⟩ := h.databaseUrl
  obtain ⟨connections, hconnections⟩ := exists_gives 5 h.databaseMaxConnections
  obtain ⟨address, haddress⟩ := exists_gives (.v4 ⟨127, 0, 0, 1⟩ 3001) h.bindAddr
  obtain ⟨origin, horigin⟩ := exists_origin (holds .corsOrigin)
  obtain ⟨days, hdays⟩ := exists_gives 7 (holds .ttlNumber)
  obtain ⟨seconds, hseconds⟩ := exists_gives 10 (holds .graceNumber)
  have leastDays := (forall_iff_of_gives hdays (by decide)).mp (holds .ttlSign)
  have mostDays := (forall_iff_of_gives hdays (by decide)).mp (holds .ttlLength)
  have leastSeconds := (forall_iff_of_gives hseconds (by decide)).mp (holds .graceSign)
  have mostSeconds := (forall_iff_of_gives hseconds (by decide)).mp (holds .graceLength)
  exact ⟨⟨url, connections, address, origin, .ofDays days, .ofSeconds seconds⟩,
    hurl, hconnections, haddress, horigin,
    ⟨days, hdays, by omega, by omega, Int.add_zero _⟩,
    ⟨seconds, hseconds, by omega, by omega, Int.add_zero _⟩⟩

/-- **The first check that fails is the one that is told.** -/
theorem read_of_firstFailing {env : Environment} {check : Check}
    (h : Check.FirstFailing env Check.inOrder check) : read env = .error check.error := by
  rcases h with fails | ⟨⟨url, hurl⟩, h⟩
  · have unset : env.text? .databaseUrl = none :=
      Environment.text?_eq_none_iff.mpr fun text hset => fails ⟨text, hset⟩
    simp only [read, unset, bind, Except.bind, Check.error]
  have url_read := Environment.text?_eq_some_iff.mpr hurl
  rcases h with fails | ⟨passed, h⟩
  · simp only [read, url_read, orDefault_of_not unsigned?_iff_isConnections fails, bind,
      Except.bind, Check.error]
  obtain ⟨connections, hconnections⟩ := exists_gives 5 passed
  have connections_read := (orDefault_eq_ok_iff unsigned?_iff_isConnections).mpr hconnections
  rcases h with fails | ⟨passed, h⟩
  · simp only [read, url_read, connections_read, orDefault_of_not ofText?_iff_isAddress fails,
      bind, Except.bind, Check.error]
  obtain ⟨address, haddress⟩ := exists_gives (.v4 ⟨127, 0, 0, 1⟩ 3001) passed
  have address_read := bindAddr_eq_ok_iff.mpr haddress
  rcases h with fails | ⟨passed, h⟩
  · have unread : HeaderValue.ofText? ((env.text? .corsOrigin).getD defaultCorsOrigin) = none := by
      refine Option.eq_none_iff_forall_ne_some.mpr fun value h => fails ?_
      exact holds_of_origin (origin_eq_some_iff.mp h)
    simp only [read, url_read, connections_read, address_read, unread, bind, Except.bind,
      Check.error]
  obtain ⟨origin, horigin⟩ := exists_origin passed
  have origin_read := origin_eq_some_iff.mpr horigin
  rcases h with fails | ⟨passed, h⟩
  · simp only [read, url_read, connections_read, address_read, origin_read,
      orDefault_of_not signed?_iff_isNumber fails, bind, Except.bind, Check.error]
  obtain ⟨days, hdays⟩ := exists_gives 7 passed
  have days_read := (orDefault_eq_ok_iff signed?_iff_isNumber).mpr hdays
  rcases h with fails | ⟨passed, h⟩
  · simp only [read, url_read, connections_read, address_read, origin_read, days_read,
      orDefault_of_not signed?_iff_isNumber fails, bind, Except.bind, Check.error]
  obtain ⟨seconds, hseconds⟩ := exists_gives 10 passed
  exact read_of_firstFailing_policy hurl hconnections haddress horigin hdays hseconds h

/-- There are either settings, or a first check that fails and is told. -/
theorem configures_or_exists_firstFailing (env : Environment) :
    (∃ s, Configures env s) ∨ ∃ check, Check.FirstFailing env Check.inOrder check := by
  rcases Check.holds_or_exists_firstFailing env Check.inOrder with all | failing
  · exact .inl (exists_configures (wellFormed_iff_holds.mpr fun c => all c c.mem_inOrder))
  · exact .inr failing

/-- **The settings that are read are those of the environment.** -/
theorem read_eq_ok_iff {env : Environment} {s : Settings} :
    read env = .ok s ↔ Configures env s := by
  refine ⟨fun h => ?_, read_of_configures⟩
  rcases configures_or_exists_firstFailing env with ⟨s', configured⟩ | ⟨check, failing⟩
  · have same : s' = s := Except.ok.inj ((read_of_configures configured).symm.trans h)
    exact same ▸ configured
  · rw [read_of_firstFailing failing] at h
    cases h

/-- **What is told is the first check that fails.** -/
theorem read_eq_error_iff {env : Environment} {e : Error} :
    read env = .error e ↔
      ∃ check, Check.FirstFailing env Check.inOrder check ∧ check.error = e := by
  constructor
  · intro h
    rcases configures_or_exists_firstFailing env with ⟨s, configured⟩ | ⟨check, failing⟩
    · rw [read_of_configures configured] at h
      cases h
    · exact ⟨check, failing, Except.error.inj ((read_of_firstFailing failing).symm.trans h)⟩
  · rintro ⟨check, failing, rfl⟩
    exact read_of_firstFailing failing

theorem exists_read_iff {env : Environment} : (∃ s, read env = .ok s) ↔ env.WellFormed := by
  constructor
  · rintro ⟨s, h⟩
    rcases Check.holds_or_exists_firstFailing env Check.inOrder with all | ⟨check, failing⟩
    · exact wellFormed_iff_holds.mpr fun check => all check check.mem_inOrder
    · rw [read_of_firstFailing failing] at h
      cases h
  · intro h
    obtain ⟨s, configured⟩ := exists_configures h
    exact ⟨s, read_of_configures configured⟩

/-- A service starts with the settings that are read. -/
theorem boot_settings {env : Environment} {reaches : String → Bool} {faults : List Store.Fault}
    {rows : Table} {draws : Draws} {session : Session} {log : List Event}
    (h : Session.boot env reaches faults rows draws = .ok (session, log)) :
    ∃ settings, read env = .ok settings ∧ settings = session.settings := by
  unfold Session.boot at h
  split at h
  · cases h
  · next settings hread =>
    refine ⟨settings, hread, ?_⟩
    repeat' split at h
    all_goals cases h
    rfl

/-- Of the failures to start, those of the settings are the errors of reading them. -/
theorem boot_error_settings {env : Environment} {reaches : String → Bool}
    {faults : List Store.Fault} {rows : Table} {draws : Draws} {e : Error} :
    Session.boot env reaches faults rows draws = .error (.settings e) ↔ read env = .error e := by
  cases hread : read env with
  | error f => simp [Session.boot, hread]
  | ok settings =>
    refine iff_of_false (fun h => ?_) fun h => by cases h
    simp only [Session.boot, hread] at h
    split at h
    · cases h
    · split at h
      · cases h
      · split at h
        · next hconnect =>
          cases h
          unfold Session.connect at hconnect
          split at hconnect <;> cases hconnect
        · split at h <;> cases h

/-- **The settings of an environment**, and what is told where there are none. -/
structure Reads (env : Environment) : Prop where
  /-- There are settings exactly for the environments of the grammar. -/
  accepted : (∃ s, read env = .ok s) ↔ env.WellFormed
  /-- They are what the variables give. -/
  settings : ∀ s, read env = .ok s ↔ Configures env s
  /-- Otherwise the first check that fails is told. -/
  refused : ∀ message : String, (∃ e, read env = .error e ∧ e.message = message) ↔
    ∃ check, Check.FirstFailing env Check.inOrder check ∧ check.complaint = message
  /-- A service starts with these settings, or tells the same. -/
  started : ∀ (reaches : String → Bool) (faults : List Store.Fault) (rows : Table) (draws : Draws),
    (∀ session log, Session.boot env reaches faults rows draws = .ok (session, log) →
      Configures env session.settings) ∧
    ∀ e, Session.boot env reaches faults rows draws = .error (.settings e) ↔ read env = .error e

/-- **Every environment has the settings of its grammar**, or is told the first check it fails. -/
theorem reads (env : Environment) : Reads env where
  accepted := exists_read_iff
  settings _ := read_eq_ok_iff
  refused message := by
    simp only [read_eq_error_iff]
    constructor
    · rintro ⟨_, ⟨check, failing, rfl⟩, rfl⟩
      exact ⟨check, failing, check.message_error.symm⟩
    · rintro ⟨check, failing, rfl⟩
      exact ⟨_, ⟨check, failing, rfl⟩, check.message_error⟩
  started reaches faults rows draws := by
    refine ⟨fun session log h => ?_, fun e => ?_⟩
    · obtain ⟨settings, hread, same⟩ := boot_settings h
      exact same ▸ read_eq_ok_iff.mp hread
    · exact boot_error_settings

/-- Both numbers are read before the sign of the first is looked at: no days of life, and a sign
    without digits for the grace. -/
example : read (fun v => if v = .databaseUrl then some [] else if v = .tokenTtlDays then some [48]
    else if v = .tokenGraceSecs then some [45] else none) =
    .error (.unreadable .tokenGraceSecs) := by
  decide +kernel

end TokenRotation.Settings
