import EventRelay.Text.Quoted

namespace EventRelay

/-- Why a fetch brought no event. -/
inductive FetchFault
  | interrupted
  | timeout
  | closed
  | failed (reason : String)
deriving DecidableEq

namespace FetchFault

def message : FetchFault → String
  | .interrupted => "fetch interrupted"
  | .timeout => "fetch timed out"
  | .closed => "event source closed"
  | .failed reason => "fetch failed: " ++ reason

def label : FetchFault → String
  | .interrupted => "fetch_interrupted"
  | .timeout => "fetch_timeout"
  | .closed => "fetch_closed"
  | .failed _ => "fetch_failed"

def inspect : FetchFault → String
  | .interrupted => "Interrupted"
  | .timeout => "Timeout"
  | .closed => "Closed"
  | .failed reason => Text.record "Failed" [("reason", Text.quote reason)]

/-- An interrupt or a timeout is no failure of the source. -/
def isFailure : FetchFault → Bool
  | .interrupted => false
  | .timeout => false
  | .closed => true
  | .failed _ => true

end FetchFault

/-- Why a source refuses a posted event. -/
inductive SourceFault
  | unsupported
  | invalidName (name reason : String)
  | closed
deriving DecidableEq

namespace SourceFault

def message : SourceFault → String
  | .unsupported => "event injection not supported by this source"
  | .invalidName name reason => "invalid event name " ++ Text.quote name ++ ": " ++ reason
  | .closed => "event source closed"

def label : SourceFault → String
  | .unsupported => "source_unsupported"
  | .invalidName .. => "source_invalid_name"
  | .closed => "source_closed"

def inspect : SourceFault → String
  | .unsupported => "Unsupported"
  | .invalidName name reason =>
    Text.record "InvalidName" [("name", Text.quote name), ("reason", Text.quote reason)]
  | .closed => "Closed"

end SourceFault

/-- Misuse of an execution unit, or nothing to run it on. -/
inductive UnitFault
  | alreadyStarted (name : String)
  | noRuntime
deriving DecidableEq

namespace UnitFault

def message : UnitFault → String
  | .alreadyStarted name => "execution unit '" ++ name ++ "' already started"
  | .noRuntime => "no tokio runtime available to run execution units"

def label : UnitFault → String
  | .alreadyStarted _ => "thread_illegal_state"
  | .noRuntime => "thread_no_runtime"

def inspect : UnitFault → String
  | .alreadyStarted name => Text.record "AlreadyStarted" [("name", Text.quote name)]
  | .noRuntime => "NoRuntime"

end UnitFault

/-- Why a call on the controller fails. -/
inductive CallFault
  | invalidArgument (reason : String)
  | source (cause : SourceFault)
  | unit (cause : UnitFault)
deriving DecidableEq

namespace CallFault

def message : CallFault → String
  | .invalidArgument reason => "invalid argument: " ++ reason
  | .source cause => "event source rejected event: " ++ cause.message
  | .unit cause => "execution unit failure: " ++ cause.message

def label : CallFault → String
  | .invalidArgument _ => "controller_invalid_argument"
  | .source _ => "controller_source_rejected"
  | .unit _ => "controller_thread_failure"

def inspect : CallFault → String
  | .invalidArgument reason => Text.record "InvalidArgument" [("reason", Text.quote reason)]
  | .source cause => "Source(" ++ cause.inspect ++ ")"
  | .unit cause => "Thread(" ++ cause.inspect ++ ")"

end CallFault

end EventRelay
