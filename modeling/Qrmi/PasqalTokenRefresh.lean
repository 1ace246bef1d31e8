import Mathlib.Algebra.Order.Field.Rat
import Qrmi.PasqalCloudAuth

/-!
# Renewing the token of Pasqal Cloud

A token that is blank, undecodable or due calls for a new one before the next
request.  The check of the expiry and its report read the token in two steps, and
the report gives up on a token that the check takes to be unusable.
-/

open Interaction

/-- The value of a decimal literal with an optional fraction and exponent. -/
def Text.literalValue (literal : Text) : ℚ :=
  let unsigned := if literal.head? = some '-' then literal.tail else literal
  let sign : ℚ := if literal.head? = some '-' then -1 else 1
  let isMark (char : Char) : Bool := char = 'e' || char = 'E'
  let mantissa := unsigned.takeWhile fun char => !isMark char
  let power := (unsigned.dropWhile fun char => !isMark char).tail
  let whole := mantissa.takeWhile (· ≠ '.')
  let fraction := (mantissa.dropWhile (· ≠ '.')).tail
  let exponent : Int :=
    if power.head? = some '-' then -Nat.ofDigitChars 10 power.tail 0
    else Nat.ofDigitChars 10 (Text.stripPlus power) 0
  sign * Nat.ofDigitChars 10 (whole ++ fraction) 0 * 10 ^ (exponent - fraction.length)

/-- The value of a JSON number. -/
def JsonNumber.toRat : JsonNumber → ℚ
  | unsigned value => value
  | negative magnitude => -magnitude
  | real literal => literal.literalValue

example : (JsonNumber.real "-12.5e1".toList).toRat = -125 := by
  decide +kernel

namespace PasqalCloud

/-- The third segment onwards of a JWT is not looked at. -/
def IsJwt (token payload : Text) : Prop :=
  ∃ header signature rest, (Text.trim token).splitOn '.' = header :: payload :: signature :: rest ∧
    header ≠ [] ∧ payload ≠ []

section Needs

variable {HeaderValue : Type} (library : AuthLibrary HeaderValue)

/-- The document of a payload, or the message of a decoder. -/
def decodePayload (payload : Text) : Except String Json :=
  (library.decodeUrlSafe payload).bind library.parseJson

/-- A token that is a JWT with the given `exp` claim. -/
def StatesExpiry (token : Text) (exp : Json) : Prop :=
  ∃ payload value, IsJwt token payload ∧ decodePayload library payload = .ok value ∧
    value.member? "exp" = some exp

/-- A claim that denotes a time before the end of the grace period. -/
def IsDue (exp : Json) (now : Int) : Prop :=
  (∃ number, exp = .number number ∧ number.toRat ≤ ↑(now + authTokenExpiryGraceSeconds)) ∨
    ∃ text seconds, exp = .string text ∧ Text.DenotesInteger text seconds ∧
      seconds ≤ now + authTokenExpiryGraceSeconds

/-- The tokens that a request must not be sent with. -/
inductive RefreshNeeded (token : Text) (now : Int) : Prop
  | blank (blank : Text.trim token = [])
  | undecodable {payload : Text} {message : String} (isJwt : IsJwt token payload)
      (failed : decodePayload library payload = .error message)
  | due {exp : Json} (states : StatesExpiry library token exp) (due : IsDue exp now)

/-- A claim that fits a signed 64-bit integer, as a number or in a string. -/
def ReadableExpiry (exp : Json) : Prop :=
  (∃ seconds, exp.asI64 = some seconds) ∨
    ∃ text seconds, exp.asString = some text ∧ Text.parseI64 text = some seconds

/-- Complete credentials of a user or of a service account. -/
def HasCredentials (client : Client HeaderValue) : Prop :=
  (∃ username password, client.username = some username ∧ client.password = some password) ∨
    ∃ clientId clientSecret, client.clientId = some clientId ∧
      client.clientSecret = some clientSecret

/-- A new token is asked for, before any request of the service. -/
def RequestsToken (trace : List (CloudEvent HeaderValue)) : Prop :=
  ∃ earlier endpoint form reply later,
    trace = earlier ++ ⟨.postForm endpoint form, reply⟩ :: later ∧
    ∀ request answer, ⟨.send request, answer⟩ ∉ earlier

end Needs

section Decoder

variable {HeaderValue : Type} {library : AuthLibrary HeaderValue} {token : Text} {now : Int}

theorem trim_ne_nil_of_isJwt {payload : Text} (isJwt : IsJwt token payload) :
    Text.trim token ≠ [] := by
  obtain ⟨header, signature, rest, split, -⟩ := isJwt
  intro blank
  rw [blank] at split
  cases split

theorem IsJwt.payload_eq {first second : Text} (one : IsJwt token first)
    (other : IsJwt token second) : first = second := by
  obtain ⟨_, _, _, split, -⟩ := one
  obtain ⟨_, _, _, splitToo, -⟩ := other
  rw [split] at splitToo
  injection splitToo with _ tails
  injection tails

theorem StatesExpiry.exp_eq {first second : Json} (one : StatesExpiry library token first)
    (other : StatesExpiry library token second) : first = second := by
  obtain ⟨_, _, isJwt, decoded, member⟩ := one
  obtain ⟨_, _, isJwtToo, decodedToo, memberToo⟩ := other
  cases isJwt.payload_eq isJwtToo
  cases decoded.symm.trans decodedToo
  cases member.symm.trans memberToo
  rfl

theorem jwtExpiry_of_undecodable {payload : Text} {message : String}
    (isJwt : IsJwt token payload) (failed : decodePayload library payload = .error message) :
    jwtExpiryUnixSeconds library token = .error (.message message) := by
  have nonblank := trim_ne_nil_of_isJwt isJwt
  obtain ⟨header, signature, rest, split, header_ne, payload_ne⟩ := isJwt
  unfold jwtExpiryUnixSeconds
  simp only [nonblank, if_false, split, header_ne, payload_ne, or_self]
  unfold decodePayload at failed
  cases decoded : library.decodeUrlSafe payload with
  | error text =>
      rw [decoded] at failed
      cases failed
      rfl
  | ok bytes =>
      rw [decoded] at failed
      have parsed : library.parseJson bytes = .error message := failed
      simp [Except.mapError, parsed, bind, Except.bind]

theorem jwtExpiry_of_states {exp : Json} (states : StatesExpiry library token exp) :
    jwtExpiryUnixSeconds library token =
      match exp.asI64, exp.asString with
      | some seconds, _ => .ok (some seconds)
      | none, some text =>
          match Text.readI64 text with
          | .ok seconds => .ok (some seconds)
          | .error message => .error (.message message)
      | none, none => .ok none := by
  obtain ⟨payload, value, isJwt, decoded, member⟩ := states
  have nonblank := trim_ne_nil_of_isJwt isJwt
  obtain ⟨header, signature, rest, split, header_ne, payload_ne⟩ := isJwt
  unfold decodePayload at decoded
  cases bytesRead : library.decodeUrlSafe payload with
  | error text =>
      rw [bytesRead] at decoded
      cases decoded
  | ok bytes =>
      rw [bytesRead] at decoded
      have parsed : library.parseJson bytes = .ok value := decoded
      cases number : exp.asI64 with
      | some seconds =>
          simp only [jwtExpiryUnixSeconds, nonblank, if_false, split, header_ne, payload_ne,
            or_self, bytesRead, parsed, member, number, Except.mapError, bind, Except.bind]
      | none =>
          cases string : exp.asString with
          | some text =>
              cases read : Text.readI64 text <;>
                simp only [jwtExpiryUnixSeconds, nonblank, if_false, split, header_ne,
                  payload_ne, or_self, bytesRead, parsed, member, number, string, read,
                  Except.mapError, bind, Except.bind]
          | none =>
              simp only [jwtExpiryUnixSeconds, nonblank, if_false, split, header_ne, payload_ne,
                or_self, bytesRead, parsed, member, number, string, Except.mapError, bind,
                Except.bind]

/-- A number that fits 64 bits is its own value. -/
theorem toRat_of_asI64 {number : JsonNumber} {seconds : Int}
    (reads : (Json.number number).asI64 = some seconds) : number.toRat = seconds := by
  cases number with
  | unsigned value =>
      simp only [Json.asI64, Option.ite_none_right_eq_some, Option.some.injEq] at reads
      obtain ⟨-, rfl⟩ := reads
      simp [JsonNumber.toRat]
  | negative magnitude =>
      simp only [Json.asI64, Option.ite_none_right_eq_some, Option.some.injEq] at reads
      obtain ⟨-, rfl⟩ := reads
      simp [JsonNumber.toRat]
  | real literal => cases reads

/-- The expiry of a due claim that can be read is due. -/
theorem jwtExpiry_of_due {exp : Json} (states : StatesExpiry library token exp)
    (due : IsDue exp now) :
    (ReadableExpiry exp ∧ ∃ seconds,
      jwtExpiryUnixSeconds library token = .ok (some seconds) ∧
        seconds ≤ now + authTokenExpiryGraceSeconds) ∨
      (¬ ReadableExpiry exp ∧ (jwtExpiryUnixSeconds library token = .ok none ∨
        ∃ error, jwtExpiryUnixSeconds library token = .error error)) := by
  rw [jwtExpiry_of_states states]
  rcases due with ⟨number, rfl, notLater⟩ | ⟨text, seconds, rfl, denotes, notLater⟩
  · cases reads : (Json.number number).asI64 with
    | some seconds =>
        rw [toRat_of_asI64 reads] at notLater
        exact .inl ⟨.inl ⟨seconds, reads⟩, seconds, rfl, by exact_mod_cast notLater⟩
    | none =>
        refine .inr ⟨?_, .inl rfl⟩
        rintro (⟨seconds, equal⟩ | ⟨text, seconds, equal, -⟩)
        · rw [reads] at equal
          cases equal
        · cases equal
  · have parses := Text.toOption_readI64 text
    cases reads : Text.readI64 text with
    | ok parsed =>
        rw [reads] at parses
        have parsedAlike : Text.parseI64 text = some parsed := parses.symm
        have same : parsed = seconds := by
          rw [Text.parseI64_of_denotesInteger denotes] at parsedAlike
          simp only [Option.ite_none_right_eq_some, Option.some.injEq] at parsedAlike
          exact parsedAlike.2.symm
        refine .inl ⟨.inr ⟨text, parsed, rfl, parsedAlike⟩, parsed, ?_, same ▸ notLater⟩
        simp [Json.asI64, Json.asString, reads]
    | error message =>
        rw [reads] at parses
        refine .inr ⟨?_, .inr ⟨.message message, ?_⟩⟩
        · rintro (⟨_, equal⟩ | ⟨other, parsed, equal, found⟩)
          · cases equal
          · cases equal
            cases found.symm.trans parses.symm
        · simp [Json.asI64, Json.asString, reads]

/-- A needed refresh is tried exactly when the token is blank or its expiry can be
read: then it is unusable, and the report of its expiry does not fail. -/
theorem refreshes_iff_of_needed (needed : RefreshNeeded library token now) :
    (isAuthTokenUsable library token now = false ∧
        ∃ expiry, jwtExpiryUnixSeconds library token = .ok expiry) ↔
      Text.trim token = [] ∨ ∃ exp, StatesExpiry library token exp ∧ ReadableExpiry exp := by
  cases needed with
  | blank blank =>
      have unusable : isAuthTokenUsable library token now = false := by
        rw [isAuthTokenUsable, if_pos blank]
      have absent : jwtExpiryUnixSeconds library token = .ok none := by
        simp only [jwtExpiryUnixSeconds, blank, if_true]
      exact ⟨fun _ => .inl blank, fun _ => ⟨unusable, none, absent⟩⟩
  | undecodable isJwt failed =>
      have fails := jwtExpiry_of_undecodable isJwt failed
      constructor
      · rintro ⟨-, expiry, reads⟩
        rw [fails] at reads
        cases reads
      · rintro (blank | ⟨exp, ⟨_, _, isJwtToo, decoded, -⟩, -⟩)
        · exact absurd blank (trim_ne_nil_of_isJwt isJwt)
        · cases isJwt.payload_eq isJwtToo
          rw [failed] at decoded
          cases decoded
  | @due exp states due =>
      have nonblank : Text.trim token ≠ [] := by
        obtain ⟨_, _, isJwt, -⟩ := states
        exact trim_ne_nil_of_isJwt isJwt
      have reading : (Text.trim token = [] ∨
          ∃ other, StatesExpiry library token other ∧ ReadableExpiry other) ↔
            ReadableExpiry exp := by
        constructor
        · rintro (blank | ⟨other, statesOther, readable⟩)
          · exact absurd blank nonblank
          · rwa [states.exp_eq statesOther]
        · exact fun readable => .inr ⟨exp, states, readable⟩
      rw [reading, isAuthTokenUsable, if_neg nonblank]
      rcases jwtExpiry_of_due states due with ⟨readable, seconds, reads, notLater⟩ |
        ⟨unreadable, absent | ⟨error, fails⟩⟩
      · have late : ¬ now + authTokenExpiryGraceSeconds < seconds := by omega
        simp [reads, readable, late]
      · simp [absent, unreadable]
      · simp [fails, unreadable]

end Decoder

section Renewal

open Method

variable {HeaderValue : Type} {library : AuthLibrary HeaderValue}
variable {client after : Client HeaderValue} {trace : List (CloudEvent HeaderValue)}

theorem not_requestsToken_singleton {action : CloudAction HeaderValue} {answer : action.Answer}
    (other : ∀ endpoint form, action ≠ .postForm endpoint form) :
    ¬ RequestsToken [⟨action, answer⟩] := by
  rintro ⟨earlier, endpoint, form, reply, later, equal, -⟩
  cases earlier with
  | nil =>
      injection equal with same
      injection same with isPost
      exact other endpoint form isPost
  | cons event rest => simp at equal

theorem exists_accessTokenRequest (credentials : HasCredentials client) :
    ∃ request, client.accessTokenRequest = some request := by
  unfold Client.accessTokenRequest
  rcases credentials with ⟨username, password, hasUser, hasPassword⟩ |
    ⟨clientId, clientSecret, hasId, hasSecret⟩
  · exact ⟨.usernamePassword username password, by rw [hasUser, hasPassword]⟩
  · split
    · exact ⟨_, rfl⟩
    · exact ⟨.serviceAccount clientId clientSecret, by rw [hasId, hasSecret]⟩

/-- The clock is read first, and then the token decides. -/
theorem executes_ensureAuthenticated_iff {seconds : Nat} {result : Except CloudError Unit} :
    (Client.ensureAuthenticated library).Executes client
        (⟨.now, .ok seconds⟩ :: trace) result after ↔
      (if isAuthTokenUsable library client.authToken seconds then pure ()
        else Client.refresh library : CloudMethod HeaderValue Unit).Executes
          client trace result after := by
  unfold Client.ensureAuthenticated Client.nowUnixSeconds
  rw [executes_bind_iff]
  constructor
  · rintro (⟨error, rfl, failed⟩ | ⟨first, rest, now, middle, equal, read, continued⟩)
    · obtain ⟨answer, later, equal, returned⟩ := executes_question_bind_iff.mp failed
      cases equal
      obtain ⟨-, impossible, -⟩ := executes_ofExcept_iff.mp returned
      cases impossible
    · obtain ⟨answer, later, rfl, returned⟩ := executes_question_bind_iff.mp read
      cases equal
      obtain ⟨rfl, same, rfl⟩ := executes_ofExcept_iff.mp returned
      cases same
      exact executes_self_bind_iff.mp continued
  · intro continued
    refine .inr ⟨[⟨.now, .ok seconds⟩], trace, seconds, client, rfl, ?_,
      executes_self_bind_iff.mpr continued⟩
    exact executes_question_bind_iff.mpr
      ⟨.ok seconds, [], rfl, executes_ofExcept_iff.mpr ⟨rfl, rfl, rfl⟩⟩

/-- The endpoint is refused exactly when it is blank. -/
theorem normalizeAuthEndpoint_ok_iff (authEndpoint : Text) :
    (∃ endpoint, normalizeAuthEndpoint authEndpoint = .ok endpoint) ↔
      Text.trim authEndpoint ≠ [] := by
  unfold normalizeAuthEndpoint
  by_cases blank : Text.trim authEndpoint = []
  · rw [if_pos blank]
    exact ⟨fun ⟨_, impossible⟩ => (nomatch impossible), fun nonblank => absurd blank nonblank⟩
  · rw [if_neg blank]
    refine ⟨fun _ => blank, fun _ => ?_⟩
    by_cases hasScheme : Text.contains authEndpoint "://".toList
    · exact ⟨_, if_pos hasScheme⟩
    · exact ⟨_, if_neg hasScheme⟩

/-- A refresh posts one form, unless its configuration or the old token stops it. -/
theorem refresh_cases {result : Except CloudError Unit} (credentials : HasCredentials client)
    (executes : (Client.refresh library).Executes client trace result after) :
    (trace = [] ∧ ¬ (Text.trim client.authEndpoint ≠ [] ∧
        ∃ expiry, jwtExpiryUnixSeconds library client.authToken = .ok expiry)) ∨
      ∃ endpoint form reply, trace = [⟨.postForm endpoint form, reply⟩] ∧
        Text.trim client.authEndpoint ≠ [] ∧
        ∃ expiry, jwtExpiryUnixSeconds library client.authToken = .ok expiry := by
  obtain ⟨request, hasRequest⟩ := exists_accessTokenRequest credentials
  unfold Client.refresh at executes
  rw [executes_self_bind_iff] at executes
  cases reads : jwtExpiryUnixSeconds library client.authToken with
  | error error =>
      rw [reads] at executes
      obtain ⟨rfl, -, -⟩ := executes_ofExcept_bind_error_iff.mp executes
      exact .inl ⟨rfl, by simp⟩
  | ok expiry =>
      rw [reads, executes_ofExcept_bind_ok_iff, hasRequest] at executes
      have configured := normalizeAuthEndpoint_ok_iff client.authEndpoint
      cases normalized : normalizeAuthEndpoint client.authEndpoint with
      | error error =>
          have blank : ¬ Text.trim client.authEndpoint ≠ [] := by
            rw [← configured, normalized]
            simp
          rcases executes_bind_iff.mp executes with ⟨_, rfl, failed⟩ |
            ⟨_, _, _, _, -, requested, -⟩
          · rw [Client.requestAccessToken, normalized] at failed
            obtain ⟨rfl, -, -⟩ := executes_ofExcept_bind_error_iff.mp failed
            exact .inl ⟨rfl, fun both => blank both.1⟩
          · rw [Client.requestAccessToken, normalized] at requested
            obtain ⟨-, impossible, -⟩ := executes_ofExcept_bind_error_iff.mp requested
            cases impossible
      | ok endpoint =>
          have nonblank := configured.mp ⟨endpoint, normalized⟩
          have posts {before later : Client HeaderValue} {events : List (CloudEvent HeaderValue)}
              {answer : Except CloudError Text}
              (requested : (Client.requestAccessToken library client.authEndpoint
                request).Executes before events answer later) :
              ∃ reply, events = [⟨.postForm endpoint request.formParams, reply⟩] := by
            rw [Client.requestAccessToken, normalized, executes_ofExcept_bind_ok_iff] at requested
            obtain ⟨reply, rest, rfl, returned⟩ := executes_question_bind_iff.mp requested
            obtain ⟨rfl, -, -⟩ := executes_ofExcept_iff.mp returned
            exact ⟨reply, rfl⟩
          rcases executes_bind_iff.mp executes with ⟨_, rfl, failed⟩ |
            ⟨first, rest, token, middle, rfl, requested, stored⟩
          · obtain ⟨reply, rfl⟩ := posts failed
            exact .inr ⟨_, _, reply, rfl, nonblank, expiry, rfl⟩
          · obtain ⟨reply, rfl⟩ := posts requested
            have silent : rest = [] := by
              have built := executes_modify_bind_iff.mp stored
              cases header : makeAuthHeader library token with
              | error error =>
                  rw [header] at built
                  exact (executes_ofExcept_bind_error_iff.mp built).1
              | ok header =>
                  rw [header, executes_ofExcept_bind_ok_iff] at built
                  exact (executes_modify_iff.mp built).1
            rw [silent]
            exact .inr ⟨_, _, reply, rfl, nonblank, expiry, rfl⟩

/-- A needed token is asked for exactly when there is an endpoint to ask, and the
held token is blank or has an expiry that can be read. -/
theorem requestsToken_iff {seconds : Nat} {result : Except CloudError Unit}
    (needed : RefreshNeeded library client.authToken seconds)
    (credentials : HasCredentials client)
    (executes : (Client.ensureAuthenticated library).Executes client
      (⟨.now, .ok seconds⟩ :: trace) result after) :
    RequestsToken (⟨.now, .ok seconds⟩ :: trace) ↔
      Text.trim client.authEndpoint ≠ [] ∧
        (Text.trim client.authToken = [] ∨
          ∃ exp, StatesExpiry library client.authToken exp ∧ ReadableExpiry exp) := by
  have clockOnly : ¬ RequestsToken [(⟨.now, .ok seconds⟩ : CloudEvent HeaderValue)] :=
    not_requestsToken_singleton fun _ _ impossible => by cases impossible
  rw [← refreshes_iff_of_needed needed]
  have continued := executes_ensureAuthenticated_iff.mp executes
  by_cases usable : isAuthTokenUsable library client.authToken seconds
  · rw [if_pos usable] at continued
    obtain ⟨rfl, -, -⟩ := executes_pure_iff.mp continued
    simp [usable, clockOnly]
  · rw [if_neg usable] at continued
    have unusable : isAuthTokenUsable library client.authToken seconds = false := by
      simpa using usable
    rcases refresh_cases credentials continued with ⟨rfl, stopped⟩ |
      ⟨endpoint, form, reply, rfl, nonblank, readable⟩
    · refine iff_of_false clockOnly ?_
      rintro ⟨nonblank, -, readable⟩
      exact stopped ⟨nonblank, readable⟩
    · refine iff_of_true ?_ ⟨nonblank, unusable, readable⟩
      refine ⟨[⟨.now, .ok seconds⟩], endpoint, form, reply, [], rfl, ?_⟩
      intro request answer sent
      cases List.mem_singleton.mp sent

end Renewal

namespace MalformedToken

def claims : List UInt8 :=
  "\x7b\"exp\":1\x7d".toList.map fun char => UInt8.ofNat char.toNat

/-- The two payloads below, one of them outside the alphabet. -/
def library : AuthLibrary Text where
  headerValue text := .ok text
  decodeUrlSafe payload :=
    if payload = "eyJleHAiOjF9".toList then .ok claims
    else .error "Invalid symbol 64, offset 0."
  parseJson bytes :=
    if bytes = claims then .ok (.object [Json.unsignedMember "exp" 1])
    else .error "expected value at line 1 column 1"
  readAccessToken := readDocument "\x7b\"access_token\":\"t\"\x7d".toList "t".toList

/-- A client of a user with the given token. -/
def client (token : String) : Client Text where
  baseUrl := "https://apis.pasqal.cloud".toList
  projectId := "p".toList
  authToken := token.toList
  authHeader := some ("Bearer ".toList ++ token.toList)
  authEndpoint := "https://authenticate.pasqal.cloud/oauth/token".toList
  username := some "u".toList
  password := some "s".toList
  clientId := none
  clientSecret := none

def granted : CloudEvent Text :=
  ⟨.postForm "https://authenticate.pasqal.cloud/oauth/token".toList
      (AccessTokenRequest.usernamePassword "u".toList "s".toList).formParams,
    .ok {
      status := ⟨200, "OK"⟩
      contentType := some "application/json".toList
      text := .ok "\x7b\"access_token\":\"t\"\x7d".toList }⟩

theorem hasCredentials (token : String) : HasCredentials (client token) :=
  .inl ⟨_, _, rfl, rfl⟩

theorem statesExpiry :
    StatesExpiry library "a.eyJleHAiOjF9.c".toList (.number (.unsigned 1)) := by
  refine ⟨"eyJleHAiOjF9".toList, .object [Json.unsignedMember "exp" 1],
    ⟨"a".toList, "c".toList, [], by decide, by decide, by decide⟩, rfl, rfl⟩

theorem expired :
    RefreshNeeded library (client "a.eyJleHAiOjF9.c").authToken (100 : Nat) := by
  refine .due statesExpiry (.inl ⟨_, rfl, ?_⟩)
  decide +kernel

theorem executes_expired :
    (Client.ensureAuthenticated library).Executes (client "a.eyJleHAiOjF9.c")
      [⟨.now, .ok 100⟩, granted] (.ok ()) (client "t") :=
  .ask (.ask (.done _))

end MalformedToken

theorem requestsToken_iff_expired :
    RequestsToken [⟨.now, .ok 100⟩, MalformedToken.granted] ↔
      Text.trim (MalformedToken.client "a.eyJleHAiOjF9.c").authEndpoint ≠ [] ∧
        (Text.trim (MalformedToken.client "a.eyJleHAiOjF9.c").authToken = [] ∨
          ∃ exp, StatesExpiry MalformedToken.library "a.eyJleHAiOjF9.c".toList exp ∧
            ReadableExpiry exp) :=
  requestsToken_iff MalformedToken.expired (MalformedToken.hasCredentials _)
    MalformedToken.executes_expired

/-- A token that the check takes to be unusable is never renewed when its payload
cannot be decoded. -/
theorem exists_unrenewed_token :
    ∃ (library : AuthLibrary Text) (client after : Client Text) (seconds : Nat)
      (trace : List (CloudEvent Text)) (result : Except CloudError Unit),
      RefreshNeeded library client.authToken seconds ∧ HasCredentials client ∧
        Text.trim client.authEndpoint ≠ [] ∧
        (Client.ensureAuthenticated library).Executes client
          (⟨.now, .ok seconds⟩ :: trace) result after ∧
        ¬ RequestsToken (⟨.now, .ok seconds⟩ :: trace) := by
  have isJwt : IsJwt "a.@@@.c".toList "@@@".toList :=
    ⟨"a".toList, "c".toList, [], by decide, by decide, by decide⟩
  have failed : decodePayload MalformedToken.library "@@@".toList =
      .error "Invalid symbol 64, offset 0." := by
    rfl
  refine ⟨MalformedToken.library, MalformedToken.client "a.@@@.c",
    MalformedToken.client "a.@@@.c", 100, [], .error (.message "Invalid symbol 64, offset 0."),
    .undecodable isJwt failed, MalformedToken.hasCredentials _, by decide, .ask (.done _), ?_⟩
  exact not_requestsToken_singleton fun _ _ impossible => by cases impossible

end PasqalCloud
