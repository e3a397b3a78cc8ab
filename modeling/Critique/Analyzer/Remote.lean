import Critique.Analyzer.Classifier
import Critique.Analyzer.Description
import Critique.Codec.Report
import Critique.Json.Parser
import Critique.Json.Printer
import Critique.Text.Quoted

/-!
# Remote classifiers

A remote classifier is asked over HTTP.  It gets the snippet and the language as JSON and answers
with a report as JSON.

What the network does is not part of this module: a `Transport` says how each request ends.  The
classifier's answer is a function of that.  A request that got no answer in time is a timeout; once
an answer has begun, whatever is wrong with it makes it an invalid report.
-/

namespace Critique

/-! ## Requests and answers -/

/-- A request to a model. -/
structure Request where
  endpoint : String
  timeoutMs : UInt64
  userAgent : String := "codecritic/" ++ version
  contentType : String := "application/json"
  body : String
  deriving Repr, DecidableEq, Inhabited

/-- How the reading of an answer's body ends. -/
inductive Body where
  | complete (bytes : List UInt8)
  | timedOut
  | cutOff
  deriving Repr, DecidableEq, Inhabited

/-- How a request ends. -/
inductive Exchange where
  /-- There was no answer in time. -/
  | timedOut
  /-- There was no connection, or it ended without an answer. -/
  | unanswered
  /-- There was an answer with a status and a body. -/
  | answered (status : Nat) (body : Body)
  deriving Repr, DecidableEq, Inhabited

/-- How each request ends. -/
abbrev Transport := Request → Exchange

/-- A transport over which nothing is answered. -/
def Transport.none : Transport := fun _ => .unanswered

/-! ## Endpoints -/

/-- May the character stand in a scheme behind its first letter? -/
def isSchemeChar (c : Char) : Bool :=
  c.isAlphanum || c == '+' || c == '-' || c == '.'

/-- An endpoint without what a reader of addresses passes over: spaces and control characters at its
ends, and tabs and line breaks anywhere. -/
def tidyEndpoint (endpoint : String) : List Char :=
  let isIdle := fun (c : Char) => c.toNat ≤ 0x20
  let cs := ((endpoint.toList.dropWhile isIdle).reverse.dropWhile isIdle).reverse
  cs.filter fun c => c != '\t' && c != '\n' && c != '\r'

/-- The scheme of an endpoint, in lower case, and what follows its colon. -/
def splitScheme? (cs : List Char) : Option (String × List Char) :=
  match cs.dropWhile isSchemeChar with
  | ':' :: rest =>
    if cs.head?.any Char.isAlpha then
      some (String.ofList ((cs.takeWhile isSchemeChar).map Char.toLower), rest)
    else none
  | _ => none

/-- The host in what follows the scheme: behind slashes and the name of a user, and before a colon,
a path or what comes after it. -/
def hostOf (cs : List Char) : List Char :=
  let isSlash := fun c => c == '/' || c == '\\'
  let authority := (cs.dropWhile isSlash).takeWhile fun c => !(isSlash c || c == '?' || c == '#')
  let behindUser := (authority.reverse.takeWhile (· != '@')).reverse
  behindUser.takeWhile (· != ':')

/-- Why no request can be sent to an endpoint, if that is so. -/
def endpointFault? (endpoint : String) : Option EndpointFault :=
  match splitScheme? (tidyEndpoint endpoint) with
  | none => some .noScheme
  | some (scheme, rest) =>
    if (scheme == "http" || scheme == "https") && (hostOf rest).isEmpty then some .noHost else none

/-! ## The classifier -/

/-- The request about a snippet. -/
def ModelSettings.request (m : ModelSettings) (code language : String) : Request where
  endpoint := m.endpoint
  timeoutMs := m.timeoutMs
  body := (Json.obj [("code", .str (preprocess code)), ("language", .str language)]).compact

/-- Is the status a success? -/
def isSuccess (status : Nat) : Bool :=
  200 ≤ status && status ≤ 299

/-- Read bytes as a report in JSON. -/
def Report.ofBytes? (bytes : List UInt8) : Option Report :=
  ((Text.Utf8.decode? bytes).bind Json.parse?).bind Report.ofJson?

/-- The bytes of a body that was read to its end. -/
def Body.bytes? : Body → Option (List UInt8)
  | complete bytes => some bytes
  | _ => none

/-- The answer of a model, by how the request to its endpoint ended. -/
def Exchange.report (endpoint : String) : Exchange → Except Failure Report
  | timedOut => .error .timeout
  | unanswered => .error (.model (.unanswered endpoint))
  | answered status body =>
    if isSuccess status then
      match body.bytes?.bind Report.ofBytes? with
      | some report => .ok report
      | none => .error (.model .invalidReport)
    else .error (.model (.status endpoint status))

/-- The classifier that is reached as the settings say. -/
def Classifier.remote (transport : Transport) (m : ModelSettings) : Classifier where
  name := m.modelName
  details := .ofList [("endpoint", m.endpoint), ("timeout_ms", toString m.timeoutMs)]
  classify code language :=
    match endpointFault? m.endpoint with
    | some fault => .error (.model (.unsendable fault))
    | none => (transport (m.request code language)).report m.endpoint
  log language :=
    [⟨.debug, "querying remote classifier",
      [("endpoint", m.endpoint), ("language", Text.quoted language)]⟩]

end Critique
