import X424.Challenge
import X424.Js.Url

/-!
# Requests and responses of the Fetch API

The parts of `Headers`, `Request` and `Response` that the clients use, as the
Fetch standard has them and as Node runs them: a request's headers have no
guard, and every refusal of a constructor is a `TypeError`.  A request is
handed on at most once, so the consumption of its body is not followed; only
the caller's own `Request` may come with a body that is already used.
-/

namespace X424

/-! ## Headers -/

def isHttpWhitespace (u : UInt16) : Bool := u == 0x09 || u == 0x0A || u == 0x0D || u == 0x20

def isTokenUnit (u : UInt16) : Bool :=
  (0x30 ≤ u && u ≤ 0x39) || (0x41 ≤ u && u ≤ 0x5A) || (0x5E ≤ u && u ≤ 0x7A) ||
    (js "!#$%&'*+-.|~").contains u

def isToken (text : JsString) : Bool := !text.isEmpty && text.all isTokenUnit

def stripEnd (text : JsString) : JsString := (text.reverse.dropWhile isHttpWhitespace).reverse

def normalizeValue (value : JsString) : JsString := stripEnd (value.dropWhile isHttpWhitespace)

/-- A byte string without `NUL`, `LF` and `CR`. -/
def isHeaderValue (value : JsString) : Bool :=
  value.all fun u => u ≤ 0xFF && u != 0x00 && u != 0x0A && u != 0x0D

def typeError : JsError := ⟨js "TypeError"⟩

/-- A header list by lower-case names; the values of a repeated name are joined. -/
structure Headers where
  entries : List (JsString × JsString)
  values : ∀ entry ∈ entries, isHeaderValue entry.2 = true
  deriving DecidableEq

namespace Headers

def empty : Headers := ⟨[], nofun⟩

def get (headers : Headers) (name : JsString) : Option JsString := headersGet headers.entries name

def has (headers : Headers) (name : JsString) : Bool := (headers.get name).isSome

def put (headers : Headers) (name value : JsString) (h : isHeaderValue value = true) : Headers where
  entries := (asciiLower name, value) :: headers.entries.filter fun entry =>
    entry.1 != asciiLower name
  values := by
    intro entry hentry
    rcases List.mem_cons.mp hentry with rfl | hrest
    · exact h
    · exact headers.values entry (List.mem_filter.mp hrest).1

/-- `headers.set(name, value)`. -/
def set (headers : Headers) (name value : JsString) : Except JsError Headers :=
  if h : isHeaderValue (normalizeValue value) = true then
    if isToken name then .ok (headers.put name (normalizeValue value) h) else .error typeError
  else .error typeError

/-- `headers.append(name, value)`. -/
def append (headers : Headers) (name value : JsString) : Except JsError Headers :=
  match headers.get name with
  | none => headers.set name value
  | some present => headers.set name (present ++ js ", " ++ normalizeValue value)

/-- `new Headers(pairs)`. -/
def ofPairs (pairs : List (JsString × JsString)) : Except JsError Headers :=
  pairs.foldlM (fun headers pair => headers.append pair.1 pair.2) empty

variable {headers changed : Headers} {name value : JsString}

theorem set_eq_ok (h : headers.set name value = .ok changed) :
    ∃ hvalue : isHeaderValue (normalizeValue value) = true,
      changed = headers.put name (normalizeValue value) hvalue := by
  rw [set] at h
  split at h
  · rename_i hvalue
    split at h
    · exact ⟨hvalue, (Except.ok.inj h).symm⟩
    · cases h
  · cases h

theorem get_eq (headers : Headers) (name : JsString) :
    headers.get name = headers.entries.lookup (asciiLower name) := rfl

theorem get_put {h : isHeaderValue value = true} (other : JsString) :
    (headers.put name value h).get other =
      if asciiLower other = asciiLower name then some value else headers.get other := by
  rw [get_eq, get_eq, put]
  by_cases heq : asciiLower other = asciiLower name
  · rw [if_pos heq, heq, List.lookup_cons_self]
  · rw [if_neg heq, List.lookup_cons, beq_eq_false_iff_ne.mpr heq]
    change List.lookup _ _ = _
    induction headers.entries with
    | nil => rfl
    | cons entry entries ih =>
        by_cases hentry : entry.1 = asciiLower name
        · have hother : (asciiLower other == entry.1) = false :=
            beq_eq_false_iff_ne.mpr fun hsame => heq (hsame.trans hentry)
          rw [List.filter_cons_of_neg (by simp [hentry]), ih, List.lookup_cons, hother]
        · rw [List.filter_cons_of_pos (by simp [hentry]), List.lookup_cons, List.lookup_cons, ih]

theorem get_set_self (h : headers.set name value = .ok changed) :
    changed.get name = some (normalizeValue value) := by
  obtain ⟨hvalue, rfl⟩ := set_eq_ok h
  rw [get_put, if_pos rfl]

theorem get_set_of_ne {other : JsString} (h : headers.set name value = .ok changed)
    (hne : asciiLower other ≠ asciiLower name) : changed.get other = headers.get other := by
  obtain ⟨hvalue, rfl⟩ := set_eq_ok h
  rw [get_put, if_neg hne]

theorem has_set_self (h : headers.set name value = .ok changed) : changed.has name = true := by
  rw [has, get_set_self h]
  rfl

theorem has_set_of_ne {other : JsString} (h : headers.set name value = .ok changed)
    (hne : asciiLower other ≠ asciiLower name) : changed.has other = headers.has other := by
  rw [has, get_set_of_ne h hne, has]

end Headers

/-! ## Requests -/

inductive RequestRedirect where
  | follow
  | error
  | manual
  deriving DecidableEq, Repr

inductive RequestCredentials where
  | omit
  | sameOrigin
  | include
  deriving DecidableEq, Repr

inductive RequestCache where
  | default
  | noStore
  | reload
  | noCache
  | forceCache
  | onlyIfCached
  deriving DecidableEq, Repr

inductive RequestMode where
  | navigate
  | sameOrigin
  | noCors
  | cors
  deriving DecidableEq, Repr

/-- A `Request`; an abort signal carries no data and is left out. -/
structure Request where
  method : JsString
  url : JsString
  headers : Headers
  body : Option (List UInt8)
  redirect : RequestRedirect
  credentials : RequestCredentials
  cache : RequestCache
  integrity : JsString
  keepalive : Bool
  mode : RequestMode
  referrer : JsString
  referrerPolicy : JsString
  bodyUsed : Bool
  method_token : isToken method = true
  url_printable : ∀ u ∈ url, isPrintable u = true
  deriving DecidableEq

/-- The first argument of the constructor: a string or a `URL`, or a `Request`. -/
inductive RequestInfo where
  | text (url : JsString)
  | request (source : Request)

/-- A body that is not `null`: its bytes, the type that it brings, whether it is a stream. -/
structure BodyInit where
  bytes : List UInt8
  type : Option JsString
  stream : Bool
  deriving DecidableEq, Repr

inductive HeadersInit where
  | headers (headers : Headers)
  | pairs (pairs : List (JsString × JsString))

def HeadersInit.toHeaders : HeadersInit → Except JsError Headers
  | .headers list => .ok list
  | .pairs given => Headers.ofPairs given

/-- `RequestInit`; a body that is `null` is `some none`. -/
structure RequestInit where
  method : Option JsString := none
  headers : Option HeadersInit := none
  body : Option (Option BodyInit) := none
  redirect : Option RequestRedirect := none
  credentials : Option RequestCredentials := none
  cache : Option RequestCache := none
  integrity : Option JsString := none
  keepalive : Option Bool := none
  mode : Option RequestMode := none
  referrer : Option JsString := none
  referrerPolicy : Option JsString := none
  halfDuplex : Bool := false

def RequestInit.isEmpty (init : RequestInit) : Bool :=
  init.method.isNone && init.headers.isNone && init.body.isNone && init.redirect.isNone &&
    init.credentials.isNone && init.cache.isNone && init.integrity.isNone &&
    init.keepalive.isNone && init.mode.isNone && init.referrer.isNone &&
    init.referrerPolicy.isNone && !init.halfDuplex

def normalizedMethods : List JsString :=
  [js "DELETE", js "GET", js "HEAD", js "OPTIONS", js "POST", js "PUT"]

def normalizeMethod (method : JsString) : JsString :=
  if toUpperCase method ∈ normalizedMethods then toUpperCase method else method

theorem isToken_get : isToken (js "GET") = true := by decide

theorem isToken_post : isToken (js "POST") = true := by decide

theorem isToken_normalizeMethod {method : JsString} (h : isToken method = true) :
    isToken (normalizeMethod method) = true := by
  rw [normalizeMethod]
  split
  · rename_i hmem
    have hall : ∀ m ∈ normalizedMethods, isToken m = true := by decide
    exact hall _ hmem
  · exact h

def forbiddenMethods : List JsString := [js "CONNECT", js "TRACE", js "TRACK"]

def bodylessMethods : List JsString := [js "GET", js "HEAD"]

def Request.ofUrl (urls : UrlParser) (text : JsString) : Except JsError Request :=
  match h : urls.parse text with
  | none => .error typeError
  | some url =>
      if url.username ≠ [] ∨ url.password ≠ [] then .error typeError
      else
        .ok
          { method := js "GET"
            url := url.href
            headers := .empty
            body := none
            redirect := .follow
            credentials := .sameOrigin
            cache := .default
            integrity := []
            keepalive := false
            mode := .cors
            referrer := js "about:client"
            referrerPolicy := []
            bodyUsed := false
            method_token := isToken_get
            url_printable := urls.href_printable h }

def RequestInfo.source (urls : UrlParser) : RequestInfo → Except JsError Request
  | .text url => Request.ofUrl urls url
  | .request source => .ok source

/-- What a non-empty `init` does before its members are read. -/
def Request.detached (source : Request) (init : RequestInit) : Request :=
  if init.isEmpty then source
  else
    { source with
      mode := if source.mode = .navigate then .sameOrigin else source.mode
      referrer := js "about:client"
      referrerPolicy := [] }

/-- The referrer of `init`. -/
def Request.referrerFrom (request : Request) (urls : UrlParser) :
    Option JsString → Except JsError JsString
  | none => .ok request.referrer
  | some referrer =>
      match urls.referrer referrer with
      | none => .error typeError
      | some referrer => .ok referrer

/-- The method of `init`. -/
def Request.withMethod (request : Request) (method : Option JsString) : Except JsError Request :=
  match method with
  | none => .ok request
  | some method =>
      if h : isToken method = true then
        if toUpperCase method ∈ forbiddenMethods then .error typeError
        else
          .ok { request with
            method := normalizeMethod method
            method_token := isToken_normalizeMethod h }
      else .error typeError

/-- The headers of a request with a new body: the type of the body, unless there is one. -/
def BodyInit.headers (body : Option BodyInit) (headers : Headers) : Except JsError Headers :=
  match body.bind BodyInit.type with
  | none => .ok headers
  | some type =>
      if headers.has (js "content-type") then .ok headers
      else headers.set (js "content-type") type

def Request.refused (source request : Request) (init : RequestInit) : Bool :=
  init.mode == some .navigate ||
    (request.cache == .onlyIfCached && request.mode != .sameOrigin) ||
    (request.mode == .noCors &&
      !([js "GET", js "HEAD", js "POST"].contains request.method)) ||
    ((init.body.join.isSome || source.body.isSome) && bodylessMethods.contains request.method) ||
    (init.body.join.any fun body => body.stream && (!init.halfDuplex || request.keepalive)) ||
    (init.body.join.isNone && source.body.isSome && source.bodyUsed)

/-- `new Request(input, init)`. -/
def Request.new (urls : UrlParser) (input : RequestInfo) (init : RequestInit) :
    Except JsError Request := do
  let source ← input.source urls
  let referrer ← (source.detached init).referrerFrom urls init.referrer
  let named ← (source.detached init).withMethod init.method
  let headers ← (init.headers.getD (.headers source.headers)).toHeaders
  let headers ← BodyInit.headers init.body.join headers
  let request : Request :=
    { named with
      headers
      body := (init.body.join.map BodyInit.bytes).or source.body
      redirect := init.redirect.getD source.redirect
      credentials := init.credentials.getD source.credentials
      cache := init.cache.getD source.cache
      integrity := init.integrity.getD source.integrity
      keepalive := init.keepalive.getD source.keepalive
      mode := init.mode.getD (source.detached init).mode
      referrer
      referrerPolicy := init.referrerPolicy.getD (source.detached init).referrerPolicy
      bodyUsed := false }
  if Request.refused source request init then .error typeError else .ok request

/-- `request.clone()`. -/
def Request.clone (request : Request) : Except JsError Request :=
  if request.bodyUsed && request.body.isSome then .error typeError else .ok request

/-- `request.clone().arrayBuffer()`, or no bytes. -/
def Request.content (request : Request) : List UInt8 := request.body.getD []

/-! ## Responses -/

inductive ResponseType where
  | basic
  | cors
  | default
  | error
  | opaqueResponse
  | opaqueRedirect
  deriving DecidableEq, Repr

/-- A `Response`; `body` is its text, if it can be read. -/
structure Response where
  type : ResponseType
  status : Nat
  headers : Headers
  url : JsString
  body : Option JsString
  deriving DecidableEq

/-- `response.clone().json()`. -/
def Response.json (numbers : JsNumbers) (response : Response) : Option Json :=
  response.body.bind (jsonParse numbers)

/-! ## What the constructor keeps -/

/-- What a request that is built from another has of it, and of `init`. -/
structure Request.BuiltFrom (source : Request) (init : RequestInit) (request : Request) : Prop where
  url : request.url = source.url
  method : request.method = (init.method.map normalizeMethod).getD source.method
  body : request.body = (init.body.join.map BodyInit.bytes).or source.body
  redirect : request.redirect = init.redirect.getD source.redirect
  headers : ∀ headers, init.headers.getD (.headers source.headers) = .headers headers →
    BodyInit.headers init.body.join headers = .ok request.headers

theorem Request.withMethod_eq_ok {request named : Request} {method : Option JsString}
    (h : request.withMethod method = .ok named) :
    named.url = request.url ∧ named.method = (method.map normalizeMethod).getD request.method := by
  cases method with
  | none =>
      cases h
      exact ⟨rfl, rfl⟩
  | some method =>
      rw [withMethod] at h
      split at h
      · split at h
        · cases h
        · cases h
          exact ⟨rfl, rfl⟩
      · cases h

theorem Request.detached_url (source : Request) (init : RequestInit) :
    (source.detached init).url = source.url ∧ (source.detached init).method = source.method := by
  rw [detached]
  split <;> exact ⟨rfl, rfl⟩

theorem Request.new_eq_ok {urls : UrlParser} {input : RequestInfo} {init : RequestInit}
    {request : Request} (h : Request.new urls input init = .ok request) :
    ∃ source, input.source urls = .ok source ∧ source.BuiltFrom init request := by
  obtain ⟨source, hsource, h⟩ := bind_eq_ok.mp h
  obtain ⟨referrer, -, h⟩ := bind_eq_ok.mp h
  obtain ⟨named, hnamed, h⟩ := bind_eq_ok.mp h
  obtain ⟨headers, hheaders, h⟩ := bind_eq_ok.mp h
  obtain ⟨typed, htyped, h⟩ := bind_eq_ok.mp h
  obtain ⟨hurl, hmethod⟩ := Request.withMethod_eq_ok hnamed
  obtain ⟨hdetachedUrl, hdetachedMethod⟩ := source.detached_url init
  refine ⟨source, hsource, ?_⟩
  dsimp only at h
  split at h
  · cases h
  · cases h
    refine ⟨hurl.trans hdetachedUrl, hmethod.trans (by rw [hdetachedMethod]), rfl, rfl, ?_⟩
    intro given hgiven
    rw [hgiven] at hheaders
    cases hheaders
    exact htyped

theorem BodyInit.get_headers {body : Option BodyInit} {headers typed : Headers} {name : JsString}
    (h : BodyInit.headers body headers = .ok typed) (hname : asciiLower name ≠ js "content-type") :
    typed.get name = headers.get name := by
  rw [BodyInit.headers] at h
  split at h
  · cases h
    rfl
  · split at h
    · cases h
      rfl
    · exact Headers.get_set_of_ne h hname

/-- A request that is built again without a method and a body of its own. -/
theorem Request.new_request_eq_ok {urls : UrlParser} {source request : Request} {init : RequestInit}
    (hmethod : init.method = none) (hbody : init.body = none)
    (h : Request.new urls (.request source) init = .ok request) :
    request.url = source.url ∧ request.method = source.method ∧ request.body = source.body ∧
      request.redirect = init.redirect.getD source.redirect ∧
      ∀ headers, init.headers.getD (.headers source.headers) = .headers headers →
        request.headers = headers := by
  obtain ⟨built, hsource, hbuilt⟩ := Request.new_eq_ok h
  cases hsource
  refine ⟨hbuilt.url, ?_, ?_, hbuilt.redirect, fun headers hheaders => ?_⟩
  · rw [hbuilt.method, hmethod]
    rfl
  · rw [hbuilt.body, hbody]
    rfl
  · have htyped := hbuilt.headers headers hheaders
    rw [hbody] at htyped
    exact (Except.ok.inj htyped).symm

theorem Request.clone_eq_ok {request copy : Request} (h : request.clone = .ok copy) :
    copy = request := by
  rw [clone] at h
  split at h
  · cases h
  · exact (Except.ok.inj h).symm

end X424
