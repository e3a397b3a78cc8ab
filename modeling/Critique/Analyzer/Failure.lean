import Critique.FileTree.Basic
import Critique.Settings

/-!
# Failures of analyzers

The ways in which an analyzer can fail, and the message of each.
-/

namespace Critique

/-- What an analyzer can be asked for besides an analysis. -/
inductive Operation where
  | training
  | evaluation
  | save
  | load
  deriving Repr, DecidableEq, Inhabited

/-- The name of an operation. -/
def Operation.name : Operation → String
  | training => "training"
  | evaluation => "evaluation"
  | save => "save"
  | load => "load"

/-- Why no request can be sent to an endpoint. -/
inductive EndpointFault where
  /-- The endpoint does not start with a scheme. -/
  | noScheme
  /-- The endpoint names no host. -/
  | noHost
  deriving Repr, DecidableEq, Inhabited

/-- The message about an endpoint. -/
def EndpointFault.message : EndpointFault → String
  | noScheme => "builder error: relative URL without a base"
  | noHost => "builder error: empty host"

/-- What went wrong with a model. -/
inductive ModelFault where
  /-- The classifier says so itself. -/
  | reported (text : String)
  /-- No request can be sent. -/
  | unsendable (fault : EndpointFault)
  /-- The request got no answer. -/
  | unanswered (endpoint : String)
  /-- The answer has a status that is no success. -/
  | status (endpoint : String) (code : Nat)
  /-- The answer cannot be read as a report. -/
  | invalidReport
  deriving Repr, DecidableEq, Inhabited

/-- The message about a model. -/
def ModelFault.message : ModelFault → String
  | reported text => text
  | unsendable fault => fault.message
  | unanswered endpoint => "error sending request for url (" ++ endpoint ++ ")"
  | status endpoint code => endpoint ++ " returned HTTP " ++ toString code
  | invalidReport => "invalid report"

/-- Why there is no client for requests to a model. -/
inductive ClientFault where
  /-- The client itself cannot be made, for the given reason. -/
  | client (reason : String)
  /-- The threads that it runs on cannot be started. -/
  | threads (e : IoError)
  deriving Repr, DecidableEq, Inhabited

/-- The message about a client.  A failure of the operating system is told with its cause. -/
def ClientFault.message : ClientFault → String
  | client reason => "invalid configuration: failed to create HTTP client: " ++ reason
  | threads e => "io error: " ++ e.message ++ ": " ++ e.message

/-- Why a text does not give settings that can be used. -/
inductive SettingsFault where
  /-- The text cannot be read as settings. -/
  | unreadable
  /-- The settings break a rule. -/
  | refused (violation : Violation)

/-- The message about settings. -/
def SettingsFault.message : SettingsFault → String
  | unreadable => "the text is not a settings document"
  | refused violation => violation.message

/-- Why an analyzer failed. -/
inductive Failure where
  /-- Analyzers of this kind have no such operation. -/
  | unsupported (kind : String) (operation : Operation)
  | model (fault : ModelFault)
  | timeout
  | settings (fault : SettingsFault)
  | io (e : IoError)

/-- The message of a failure. -/
def Failure.message : Failure → String
  | unsupported kind operation => kind ++ " analyzer does not support " ++ operation.name
  | model fault => "model error: " ++ fault.message
  | timeout => "model request timed out"
  | settings fault => "invalid configuration: " ++ fault.message
  | io e => "io error: " ++ e.message

end Critique
