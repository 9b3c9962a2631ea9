import WebPilot.Check.Issue
import WebPilot.Files.Basic
import WebPilot.Text.Quoted

/-!
# Failures

Everything that can end a step of a session, by its cause.  The wording is in one place,
`Failure.message`.
-/

namespace WebPilot

set_option autoImplicit false

/-- How a request to the hosted model can fail. -/
inductive ServiceFault where
  | rateLimit (message : String)
  | status (code : Int) (message : String)
  | connection (message : String)
  | other (message : String)
  deriving DecidableEq, Repr

namespace ServiceFault

/-- What the service said. -/
def message : ServiceFault → String
  | rateLimit m | status _ m | connection m | other m => m

/-- The fault on display. -/
def display (f : ServiceFault) : String :=
  let kind := match f with
    | rateLimit _ => "RateLimitError"
    | status .. => "APIStatusError"
    | connection _ => "APIConnectionError"
    | other _ => "APIError"
  s!"{kind}({Text.Quoted.ofText f.message})"

end ServiceFault

/-- Why a ledger file is no ledger. -/
inductive LedgerFault where
  | unreadable (fault : FileFault)
  | undecodable (fault : Text.Utf8.Fault)
  | invalid (invalid : Invalid)
  deriving DecidableEq, Repr

namespace LedgerFault

/-- The fault in words. -/
def message : LedgerFault → String
  | unreadable fault => fault.message
  | undecodable fault => fault.message
  | invalid i => i.message

end LedgerFault

/-- How a number can lie too far out for what it is needed for. -/
inductive Overflow where
  /-- A quotient of integers is too large for a number of 64 bits. -/
  | quotient
  /-- An integer is too large for a number of 64 bits. -/
  | integer
  /-- A number that counts something is below zero. -/
  | count
  deriving DecidableEq, Repr

namespace Overflow

/-- The overflow in words. -/
def message : Overflow → String
  | quotient => "integer division result too large for a float"
  | integer => "int too large to convert to float"
  | count => "can't convert negative int to unsigned"

end Overflow

/-- What can end a step. -/
inductive Failure where
  /-- The tool is not in the catalog. -/
  | toolNotFound (tool : String)
  /-- The backend failed while executing a call. -/
  | backendExecution (tool message : String)
  /-- The backend could not be started or is not connected. -/
  | backendUnavailable (message : String)
  /-- The model service failed. -/
  | modelService (message : String) (cause : Option ServiceFault)
  /-- The model service refused a request because of its rate. -/
  | rateLimited (message : String) (cause : Option ServiceFault)
  /-- A ledger file is there but is no ledger. -/
  | ledgerFormat (path : String) (fault : LedgerFault)
  /-- A value does not have its shape. -/
  | invalid (invalid : Invalid)
  /-- A value has the right shape and still cannot be used. -/
  | badValue (message : String)
  /-- A field that has to be there is not. -/
  | missingField (name : String)
  /-- The page failed. -/
  | page (message : String)
  /-- The operating system failed. -/
  | system (message : String)
  /-- A file failed. -/
  | file (fault : FileFault)
  /-- A record holds a value that nests too deep to be written. -/
  | tooDeepToWrite
  /-- A text holds a value that nests too deep to be read; the word says of which kind. -/
  | tooDeepToRead (container : String)
  /-- A value nests too deep to be shown, on one line or on several. -/
  | tooDeepToShow (onLines : Bool)
  /-- The console cannot read the tags of a line that it is to show. -/
  | markup (message : String)
  /-- A number lies too far out. -/
  | overflow (overflow : Overflow)
  /-- The bytes of a file are no text. -/
  | undecodable (fault : Text.Utf8.Fault)
  /-- The run needed more steps than it is allowed. -/
  | stepLimit
  /-- A logging level has no such name. -/
  | unknownSetting (message : String)
  /-- A value is of a kind that cannot be used at all. -/
  | wrongKind (message : String)
  /-- What was given for the path of a file is no path. -/
  | notPath
  /-- The operator interrupted. -/
  | interrupted
  /-- Something outside failed in a way of its own. -/
  | unexpected (message : String)
  deriving DecidableEq, Repr

namespace Failure

/-- The failure in words. -/
def message : Failure → String
  | toolNotFound tool => s!"tool not found: {tool}"
  | backendExecution _ m | backendUnavailable m | modelService m _ | rateLimited m _ => m
  | ledgerFormat path fault => s!"Invalid ledger file {path}: {fault.message}"
  | invalid i => i.message
  | missingField name => Text.Quoted.ofText name
  | badValue m | page m | system m | unknownSetting m | wrongKind m | markup m | unexpected m => m
  | file fault => fault.message
  | undecodable fault => fault.message
  | notPath => "'list' object has no attribute 'read_text'"
  | tooDeepToWrite => "Error serializing to JSON: ValueError: Maximum serialization depth exceeded"
  | tooDeepToRead container =>
    s!"maximum recursion depth exceeded while decoding a JSON {container} from a unicode string"
  | tooDeepToShow onLines =>
    let place := if onLines then "calling a Python object" else "encoding a JSON object"
    s!"maximum recursion depth exceeded while {place}"
  | overflow o => o.message
  | stepLimit | interrupted => ""

/-- Whether the failure is one of the model service. -/
def isModelService : Failure → Bool
  | modelService .. | rateLimited .. => true
  | _ => false

/-- Whether the failure is one of an executed call. -/
def isExecution : Failure → Bool
  | toolNotFound _ | backendExecution .. => true
  | _ => false

/-- The word for the class of a failure that the program itself distinguishes. -/
def kindWord? : Failure → Option String
  | toolNotFound _ => some "ToolNotFoundError"
  | backendExecution .. => some "BackendExecutionError"
  | backendUnavailable _ => some "BackendUnavailableError"
  | modelService .. => some "ModelServiceError"
  | rateLimited .. => some "RateLimitedError"
  | ledgerFormat .. => some "LedgerFormatError"
  | _ => none

/-- Whether the failure says that a value was unusable: it does not have its shape, or the bytes
are no text, or it was refused for what it is. -/
def isBadValue : Failure → Bool
  | badValue _ | invalid _ | undecodable _ => true
  | _ => false

/-- What the model service said, on display, when that is behind the failure. -/
def cause? : Failure → Option ServiceFault
  | modelService _ cause | rateLimited _ cause => cause
  | _ => none

end Failure

end WebPilot
