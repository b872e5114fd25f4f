import FeatureFlags.Config.Schema
import FeatureFlags.Json.Reader
import FeatureFlags.Json.Writer
import FeatureFlags.Net.ContentType
import FeatureFlags.Net.Form
import FeatureFlags.Net.Url
import FeatureFlags.Service.Basic
import FeatureFlags.Service.Coding
import FeatureFlags.Service.Redirect
import FeatureFlags.Text.Base64

/-!
# `FeatureFlags.Service.Http` — a service over HTTP

The listing is asked for with the project's key in the query, a decision with a JSON body.  What
comes back is classified completely: a broken exchange and any status other than 200 are transport
errors, a body that is no JSON or has the wrong shape is a decoding error, and what is neither an
answer nor a broken exchange is passed on as it is.

## Contents

1. Requests
2. Outcomes of an exchange
3. The state of a service
4. Sending
5. The operations
-/

namespace FeatureFlags

namespace Http

/-! ## Requests -/

/-- The two requests that a service makes. -/
inductive Ask where
  | listing
  | decision (subject : String) (groups : Groups)

namespace Ask

/-- The path behind that of the endpoint. -/
def path : Ask → String
  | .listing => "api/feature_flag/"
  | .decision _ _ => "decide/"

/-- The method. -/
def method : Ask → String
  | .listing => "GET"
  | .decision _ _ => "POST"

/-- The form in the query. -/
def form (token : String) : Ask → List (String × String)
  | .listing => [("token", token)]
  | .decision _ _ => [("v", "2")]

/-- The value that the body holds. -/
def content? (token : String) : Ask → Option Json
  | .listing => none
  | .decision subject groups =>
    some (.obj [("api_key", .str token), ("distinct_id", .str subject),
      ("groups", .obj (groups.map fun (type, key) => (type, .str key)))])

/-- What errors say was being done. -/
def context : Ask → String
  | .listing => "Unable to fetch feature flags"
  | .decision _ _ => "Error calling /decide/"

end Ask

/-- A request as it is sent. -/
structure Request where
  method : String
  url : String
  authorization : String
  contentType : Option String
  body : String

/-- The name by which the library makes itself known. -/
def userAgent : String := "k1s0-featureflag/0.1.0"

/-! ## Outcomes of an exchange -/

/-- What comes of a request. -/
inductive Outcome where
  | answered (status : Int) (headers : List (String × String)) (body : List UInt8)
  /-- The exchange broke down. -/
  | broken (message : String)
  /-- Something else went wrong. -/
  | foreign (e : ForeignError)

/-- The value of a header, whose name is given in small letters.  Several values of one header are
joined by commas. -/
def header? (name : String) (headers : List (String × String)) : Option String :=
  match (headers.filter fun (k, _) => k.map Char.toLower = name).map Prod.snd with
  | [] => none
  | values => some (", ".intercalate values)

/-- How deeply the values of a body may be nested. -/
def maxDepth : Nat := 987

/-- The JSON value that a body spells. -/
def jsonOfBody (body : List UInt8) : Except Json.Reader.Fault Json :=
  match Charset.decodeJson? body with
  | some text => Json.parse maxDepth text
  | none => .error .malformed

/-- A transport error in a context. -/
def transportFailure (context message : String) (status : Option Int) : Failure :=
  .library (.transport (context ++ ": " ++ message) status)

/-- The failure of a text that is no resource. -/
def urlFailure (e : UrlError) : Failure := .foreign ⟨.invalidUrl, e.message⟩

/-- The failure of a text that is no domain name. -/
def domainFailure (e : Domain.Fault) : Failure :=
  let kind :=
    match e.sort with
    | .label => .domain
    | .character => .domainCharacter
    | .context => .domainContext
    | .direction => .domainDirection
  .foreign ⟨kind, e.message⟩

/-- The failure of an answer that points to no place. -/
def redirectFailure (context : String) : Redirect.Fault → Failure
  | .unreadable e =>
    transportFailure context ("Invalid URL in location header: " ++ e.message ++ ".") none
  | .incomplete e => urlFailure e
  | .host e => domainFailure e

/-- The failure of a type of content. -/
def contentTypeFailure (e : ContentType.Fault) : Failure :=
  let kind := match e with | .mixed _ => .type | _ => .value
  .foreign ⟨kind, e.message⟩

/-- The failure of a body that is not in its charset. -/
def charsetFailure (e : Charset.Fault) : Failure :=
  let kind :=
    match e.sort with
    | .charset => .unicode
    | .byte => .unicodeDecode
    | .type => .type
    | .misuse => .assertion
  .foreign ⟨kind, e.message⟩

/-- The text of a body, in UTF-8 unless the type of its content names a charset. -/
def bodyText (headers : List (String × String)) (body : List UInt8) : Except Failure String :=
  match body with
  | [] => .ok ""
  | _ => do
    let charset ←
      match header? "content-type" headers with
      | some type => (ContentType.charsetOf? type).mapError contentTypeFailure
      | none => .ok none
    ((charset.getD .utf8).decodeLossy body).mapError charsetFailure

/-- The failure of a body that is no JSON. -/
def jsonFailure (context : String) : Json.Reader.Fault → Failure
  | .malformed => .library (DecodeError.notJson context).report
  | .tooDeep holder =>
    let what := match holder with | .list => "array" | .object => "object"
    .foreign ⟨.recursion, "maximum recursion depth exceeded while decoding a JSON " ++ what ++
      " from a unicode string"⟩

/-- The places in a text of the characters outside ASCII, up to the first one inside after them. -/
def foreignStretch? (cs : List Char) : Option (Nat × List Char) :=
  (cs.findIdx? fun c => 0x80 ≤ c.toNat).map fun i =>
    (i, (cs.drop i).takeWhile fun c => 0x80 ≤ c.toNat)

/-- The failure of a header that is not ASCII. -/
def headerFailure? (value : String) : Option Failure :=
  (foreignStretch? value.toList).map fun (i, stretch) =>
    let what :=
      match stretch with
      | [c] => "character '" ++ String.ofList (Text.codePointEscape c.toNat) ++ "' in position " ++
          toString i
      | _ => "characters in position " ++ toString i ++ "-" ++ toString (i + stretch.length - 1)
    .foreign ⟨.unicodeEncode,
      "'ascii' codec can't encode " ++ what ++ ": ordinal not in range(128)"⟩

/-- Whether a text begins with the name of a scheme and a colon. -/
def hasScheme (s : String) : Bool :=
  let name := s.toList.takeWhile fun c => c ≠ '/' ∧ c ≠ ':'
  !name.isEmpty && (s.toList.drop name.length).head? == some ':'

/-- A text without the sign of a fragment at its end, if it ends with one. -/
def dropFragmentSign (cs : List Char) : List Char :=
  if cs.getLast? = some '#' then cs.dropLast else cs

/-- Checks that answers from a resource count: its text must begin with a scheme. -/
def checkScheme (u : Url) : Except Failure Unit :=
  if hasScheme u.text then .ok ()
  else
    let text := String.ofList (dropFragmentSign u.text.toList)
    .error (.foreign ⟨.value, "unknown url type: " ++ Text.quoted text⟩)

/-- Checks the headers of an answer.  They are given as text here, and text is encoded as ASCII; headers that
come as bytes are not encoded, and cannot fail in this way. -/
def checkHeaders (headers : List (String × String)) : Except Failure Unit :=
  match headers.findSome? fun (k, v) => headerFailure? k <|> headerFailure? v with
  | some failure => .error failure
  | none => .ok ()

/-- The body of an answer without its codings. -/
def plainBody (context : String) (headers : List (String × String)) (body : List UInt8) :
    Except Failure (List UInt8) :=
  let codings := ((header? "content-encoding" headers).map Coding.ofHeader).getD []
  (Coding.undoAll codings body).mapError fun e => transportFailure context e.message none

/-- Checks the place that an answer points to, if it points elsewhere. -/
def checkRedirect (context : String) (u : Url) (status : Int) (headers : List (String × String)) :
    Except Failure Unit :=
  match header? "location" headers with
  | some location =>
    if Redirect.statuses.contains status then
      (Redirect.place u location).mapError (redirectFailure context) |>.map fun _ => ()
    else .ok ()
  | none => .ok ()

/-- What an answer from a resource says: a value, if its status is 200 and its body is JSON. -/
def read (context : String) (u : Url) (status : Int) (headers : List (String × String))
    (body : List UInt8) : Except Failure Json := do
  checkHeaders headers
  let body ← plainBody context headers body
  checkScheme u
  checkRedirect context u status headers
  if status = 200 then (jsonOfBody body).mapError (jsonFailure context)
  else
    let text ← bodyText headers body
    throw (transportFailure context ("HTTP " ++ toString status ++ ": " ++ text) (some status))

/-- What an outcome of a request to a resource says. -/
def Outcome.read (context : String) (u : Url) : Outcome → Except Failure Json
  | .answered status headers body => Http.read context u status headers body
  | .broken message => .error (transportFailure context message none)
  | .foreign e => .error (.foreign e)

end Http

/-! ## The state of a service -/

/-- A service over HTTP. -/
structure Http where
  /-- What the paths of requests are added to. -/
  base : Url
  token : String
  authorization : String
  closed : Bool := false
  /-- What will come of the next requests. -/
  outcomes : List Http.Outcome := []
  /-- The requests that were sent. -/
  sent : List Http.Request := []

namespace Http

/-- The name and the password in a resource, as a header; none if there are none. -/
def basicAuthorization? (u : Url) : Option String :=
  let cs := u.userinfo.toList
  let name := Utf8.decodeLossy (Percent.decode (cs.takeWhile (· ≠ ':')))
  let password := Utf8.decodeLossy (Percent.decode ((cs.dropWhile (· ≠ ':')).drop 1))
  if name.isEmpty && password.isEmpty then none
  else some ("Basic " ++ Base64.encode (Utf8.encode (name ++ ":" ++ password)))

/-- Removes the slashes from the end of a text. -/
def dropSlashes (s : String) : String :=
  String.ofList ((s.toList.reverse.dropWhile (· = '/')).reverse)

/-- The service that a configuration names. -/
def ofConfig (c : Config) : Except Failure Http := do
  let base ← ((Url.parse (dropSlashes c.endpoint)).bind Url.withSlash).mapError urlFailure
  let bearer := "Bearer " ++ c.personalKey
  match headerFailure? bearer with
  | some failure => throw failure
  | none =>
    return {
      base
      token := c.projectKey
      authorization := (basicAuthorization? base).getD bearer }

/-! ## Sending -/

/-- The resource of a request. -/
def url (h : Http) (ask : Ask) : Except UrlError Url := do
  let u ← h.base.withTarget (h.base.target ++ ask.path)
  u.withQuery (Form.encode (ask.form h.token))

/-- A request to a resource. -/
def request (h : Http) (ask : Ask) (u : Url) : Request :=
  let content := ask.content? h.token
  { method := ask.method
    url := u.text
    authorization := h.authorization
    contentType := content.map fun _ => "application/json"
    body := (content.map fun v => v.write .compact).getD "" }

/-- The failure of a request to a closed service. -/
def closedFailure : Failure :=
  .foreign ⟨.runtime, "Cannot send a request, as the client has been closed."⟩

/-- Sends a request and reads what comes of it. -/
def exchange (h : Http) (ask : Ask) : Except Failure Json × Http :=
  match (h.url ask).mapError urlFailure with
  | .error e => (.error e, h)
  | .ok u =>
    match u.plainHost.mapError domainFailure with
    | .error e => (.error e, h)
    | .ok _ =>
      if h.closed then (.error closedFailure, h)
      else
        let outcome := h.outcomes.head?.getD (.broken "no response")
        (outcome.read ask.context u,
          { h with outcomes := h.outcomes.drop 1, sent := h.sent ++ [h.request ask u] })

/-! ## The operations -/

/-- Reads a decoded value out of an answer. -/
def decoded {α : Type} (decode : Json → Except DecodeError α) (answer : Except Failure Json) :
    Except Failure α :=
  answer.bind fun v => (decode v).mapError fun e => .library e.report

/-- Lists the flags. -/
def fetch (h : Http) : Except Failure (List Flag) × Http :=
  let (answer, h) := h.exchange .listing
  (decoded Flag.listOfJson answer, h)

/-- Decides the flags of a subject. -/
def decide (h : Http) (subject : String) (groups : Groups) : Except Failure Answers × Http :=
  let (answer, h) := h.exchange (.decision subject groups)
  ((decoded Decisions.ofJson answer).map fun ds => ds.map fun (k, v) => (k, v.toJson), h)

/-- Closes the service; requests fail from then on. -/
def close (h : Http) : Http := { h with closed := true }

/-- Adds what will come of further requests. -/
def expect (outcomes : List Outcome) (h : Http) : Http :=
  { h with outcomes := h.outcomes ++ outcomes }

/-- The operations of a service over HTTP. -/
def service : Service Http := ⟨fetch, decide, close⟩

end Http

end FeatureFlags
