import NodeStorage.CommandLine.Arguments
import NodeStorage.Provision

/-! Doing what the command line asks for, and reporting what went wrong with everything that caused
it. -/

namespace NodeStorage.CommandLine

open Text

structure Outcome where
  stdout : String := ""
  stderr : String := ""
  status : Nat := 0
  deriving DecidableEq, Repr

/-- The text with every line after the first set in. -/
def hanging (margin : String) (s : String) : String :=
  .ofList (s.toList.flatMap fun c => if c = '\n' then '\n' :: margin.toList else [c])

def causeLines : List String → List String
  | [] => []
  | [cause] => ["    " ++ hanging "    " cause]
  | causes => (causes.zipIdx).map fun (cause, i) =>
    .ofList (List.replicate (5 - (decimal i).length) ' ') ++ decimal i ++ ": " ++
      hanging "       " cause

def errorReport (text : String) (causes : List String) : String :=
  "Error: " ++ text ++
    (if causes = [] then "" else "\n\nCaused by:\n" ++ joined "\n" (causeLines causes)) ++ "\n"

def failing (stdout text : String) (causes : List String) : Outcome :=
  ⟨stdout, errorReport text causes, 1⟩

def ofFailure (failure : Failure) : Outcome := failing "" failure.message failure.causes

def reporting (x : Step String) : Step Outcome := do
  match ← Step.attempt x with
  | .ok stdout => return { stdout := stdout }
  | .error failure => return ofFailure failure

def checkAllTools (isPresent : String → Bool) : Step Unit := checkTools isPresent Tool.all

def performPreflight (isPresent : String → Bool) : Step Outcome :=
  reporting do
    checkAllTools isPresent
    return "all required tools found\n"

def performPlan (path : Path) : Step Outcome := do
  match ← Step.attempt (Layout.load path) with
  | .error failure => return ofFailure failure
  | .ok layout =>
    match layout.fault? with
    | some fault => return failing "" fault.message []
    | none => return { stdout := layout.pretty ++ "\n" }

def summaryLines (summary : WipeSummary) : List String :=
  summary.wiped.map (fun (device, method) => "wiped " ++ device ++ " (" ++ method.text ++ ")") ++
    summary.kept.map (fun disk => "skipped " ++ disk.device ++ ": " ++ disk.reason.text) ++
    summary.failed.map (fun (device, failure) => "failed " ++ device ++ ": " ++ failure.message)

def summaryText (summary : WipeSummary) : String :=
  String.join ((summaryLines summary).map (· ++ "\n"))

def performWipe (isPresent : String → Bool) (path : Option Path) : Step Outcome := do
  let wiping : Step WipeSummary := do
    let settings ← Settings.load path
    checkAllTools isPresent
    wipeDisks settings.wipe
  match ← Step.attempt wiping with
  | .error failure => return ofFailure failure
  | .ok summary =>
    let problem := decimal summary.failed.length ++ " disk(s) could not be wiped"
    if summary.isClean then return { stdout := summaryText summary }
    else return failing (summaryText summary) problem []

def finishProvision (settings : Settings) (teardownAfter : Bool) (done : Provisioned) :
    Step Unit := do
  Step.note (.info ("target ready at " ++ settings.targetRoot.text ++ " with " ++
    decimal done.table.length ++ " fstab entries"))
  if teardownAfter then
    Session.whole done.mounts teardown

def performApply (isPresent : String → Bool) (layoutPath : Path) (path : Option Path)
    (reinstall teardownAfter : Bool) : Step Outcome := do
  match ← Step.attempt (Settings.load path) with
  | .error failure => return ofFailure failure
  | .ok settings =>
    match ← Step.attempt (Layout.load layoutPath) with
    | .error failure =>
      return failing "" ("loading layout " ++ layoutPath.text)
        (failure.message :: failure.causes)
    | .ok layout => reporting do
      checkAllTools isPresent
      let done ← layout.provision settings reinstall
      finishProvision settings teardownAfter done
      return ""

/-- The user and the tools of the machine on which the program runs. -/
structure Host where
  isAdministrator : Bool
  isPresent : String → Bool

def asAdministrator (host : Host) (x : Step Outcome) : Step Outcome :=
  if host.isAdministrator then x
  else do
    Step.note (.error (programName ++ " must run as root"))
    return failing "" "root privileges are required" []

def perform (host : Host) : Request → Step Outcome
  | .preflight => performPreflight host.isPresent
  | .plan layout => performPlan layout
  | .wipe settings => asAdministrator host (performWipe host.isPresent settings)
  | .apply layout settings reinstall teardownAfter =>
    asAdministrator host
      (performApply host.isPresent layout settings reinstall teardownAfter)

def misuseText : String :=
  "error: the arguments are not understood\n\nFor more information, try '--help'.\n"

def respond (host : Host) (args : List String) : Step Outcome :=
  match read args with
  | .request request => perform host request
  | .help topic => return { stdout := topic.text }
  | .version => return { stdout := version ++ "\n" }
  | .misuse => return ⟨"", misuseText, 2⟩

end NodeStorage.CommandLine
