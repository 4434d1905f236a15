import NodeStorage.Path
import NodeStorage.Plan.Validity
import NodeStorage.SystemError

/-! Why provisioning stopped. A failure says what went wrong and may be wrapped, any number of times,
in the name of what it happened to. -/

namespace NodeStorage

open Text

inductive SettingsFault where
  | unreadable (fault : IoFault)
  | malformed (detail : String)
  | zeroBlockSize
  deriving DecidableEq, Repr

def SettingsFault.message : SettingsFault → String
  | unreadable fault => fault.message
  | malformed detail => detail
  | zeroBlockSize => "wipe.block_size must be greater than zero"

inductive Failure where
  | toolNotFound (tool : String)
  | missingTools (tools : List String)
  | executionFailed (command : String) (status : Option Int) (output : String)
  | unsupportedConfiguration (text : String)
  | propertyLookupFailed (device : String) (source : Failure)
  | missingProperty (key : String)
  | invalidLayout (fault : LayoutFault)
  | invalidSettings (path : Path) (fault : SettingsFault)
  | workersNotStarted (reason : String)
  | io (fault : IoFault)
  | target (name : String) (source : Failure)
  deriving DecidableEq, Repr

namespace Failure

def statusText : Option Int → String
  | some code => "exit status " ++ signedDecimal code
  | none => "terminated by signal"

def message : Failure → String
  | toolNotFound tool => "required tool not found in PATH: " ++ tool
  | missingTools tools => "required tools not found in PATH: " ++ joined ", " tools
  | executionFailed command status output =>
    "\x60" ++ command ++ "\x60 failed (" ++ statusText status ++ "): " ++ output
  | unsupportedConfiguration text => "unsupported configuration: " ++ text
  | propertyLookupFailed device source =>
    "failed to read block properties of " ++ device ++ ": " ++ source.message
  | missingProperty key => "no " ++ key ++ " reported"
  | invalidLayout fault => "invalid storage layout: " ++ fault.message
  | invalidSettings path fault =>
    "invalid configuration " ++ quoted path.text ++ ": " ++ fault.message
  | workersNotStarted reason => "failed to start wipe workers: " ++ reason
  | io fault => "I/O error: " ++ fault.message
  | target name source => name ++ ": " ++ source.message

/-- A name that is not known here is a matter of configuration; all else is a bad layout. -/
def ofLayoutFault (fault : LayoutFault) : Failure :=
  if fault.isUnsupported then unsupportedConfiguration fault.message else invalidLayout fault

/-- What lies under the names of what it happened to. -/
def rootCause : Failure → Failure
  | target _ source => source.rootCause
  | failure => failure

def causes : Failure → List String
  | target _ source | propertyLookupFailed _ source => source.message :: source.causes
  | io fault => [fault.message]
  | _ => []

end Failure

end NodeStorage
