import NodeStorage.Path

/-! Reading the arguments of the program from left to right. The first argument names what is to be done,
the others are its options, each given once at most. Help is given as soon as it is asked for, unless
something before was wrong. -/

namespace NodeStorage.CommandLine

def programName : String := "disk-provision"

def version : String := "disk-provision 0.1.0"

inductive Topic where
  | program
  | preflight
  | wipe
  | apply
  | plan
  | help
  deriving DecidableEq, Repr

namespace Topic

def lines : Topic → List String
  | program => [
      "Partition, assemble, format and mount storage from a declarative layout",
      "",
      "Usage: disk-provision <COMMAND>",
      "",
      "Commands:",
      "  preflight  Check that every external tool is installed",
      "  wipe       Erase every eligible disk on this host",
      "  apply      Provision the target root from a layout file",
      "  plan       Validate a layout file and print it as JSON",
      "  help       Print this message or the help of the given subcommand(s)",
      "",
      "Options:",
      "  -h, --help     Print help",
      "  -V, --version  Print version"]
  | preflight => [
      "Check that every external tool is installed",
      "",
      "Usage: disk-provision preflight",
      "",
      "Options:",
      "  -h, --help  Print help"]
  | wipe => [
      "Erase every eligible disk on this host",
      "",
      "Usage: disk-provision wipe [OPTIONS]",
      "",
      "Options:",
      "      --config <CONFIG>  ",
      "  -h, --help             Print help"]
  | apply => [
      "Provision the target root from a layout file",
      "",
      "Usage: disk-provision apply [OPTIONS] --layout <LAYOUT>",
      "",
      "Options:",
      "      --layout <LAYOUT>  Layout file, TOML or JSON",
      "      --config <CONFIG>  ",
      "      --reinstall        Wipe all host disks first",
      "      --teardown         Unmount everything again once the target is written",
      "  -h, --help             Print help"]
  | plan => [
      "Validate a layout file and print it as JSON",
      "",
      "Usage: disk-provision plan --layout <LAYOUT>",
      "",
      "Options:",
      "      --layout <LAYOUT>  ",
      "  -h, --help             Print help"]
  | help => [
      "Print this message or the help of the given subcommand(s)",
      "",
      "Usage: disk-provision help [COMMAND]...",
      "",
      "Arguments:",
      "  [COMMAND]...  Print help for the subcommand(s)"]

def text (topic : Topic) : String := String.join (topic.lines.map (· ++ "\n"))

end Topic

inductive Request where
  | preflight
  | wipe (settings : Option Path)
  | apply (layout : Path) (settings : Option Path) (reinstall teardown : Bool)
  | plan (layout : Path)
  deriving DecidableEq, Repr

inductive Reading where
  | request (request : Request)
  | help (topic : Topic)
  | version
  | misuse
  deriving DecidableEq, Repr

structure OptionRule where
  name : String
  takesValue : Bool
  isRequired : Bool := false
  deriving DecidableEq, Repr

abbrev Given := List (String × String)

inductive Stop where
  | help
  | misuse
  deriving DecidableEq, Repr

def isHyphen (arg : String) : Bool := arg.toList.head? == some '-'

def isOptionLike (arg : String) : Bool := isHyphen arg && arg != "-"

def longOption? (arg : String) : Option (String × Option String) :=
  match arg.toList with
  | '-' :: '-' :: cs =>
    let value := match cs.dropWhile (· != '=') with
      | [] => none
      | _ :: value => some (String.ofList value)
    some (.ofList (cs.takeWhile (· != '=')), value)
  | _ => none

/-- Adds an option that is known, was not given before, and has a value where it needs one. -/
def give (given : Given) (name value : String) (needsValue : Bool) : Except Stop Given :=
  if (given.lookup name).isSome || (needsValue && value == "") then .error .misuse
  else .ok (given ++ [(name, value)])

def readOptions (rules : List OptionRule) : List String → Given → Except Stop Given
  | [], given =>
    if rules.all fun rule => !rule.isRequired || (given.lookup rule.name).isSome then .ok given
    else .error .misuse
  | arg :: rest, given =>
    match longOption? arg with
    | some ("", none) => if rest = [] then readOptions rules [] given else .error .misuse
    | some ("help", none) => .error .help
    | some (name, value) =>
      match rules.find? (·.name == name), value, rest with
      | none, _, _ => .error .misuse
      | some rule, some value, rest =>
        if rule.takesValue then (give given name value true).bind (readOptions rules rest)
        else .error .misuse
      | some rule, none, [] =>
        if rule.takesValue then .error .misuse
        else (give given name "" false).bind (readOptions rules [])
      | some rule, none, next :: later =>
        if rule.takesValue then
          if isOptionLike next then .error .misuse
          else (give given name next true).bind (readOptions rules later)
        else (give given name "" false).bind (readOptions rules (next :: later))
    | none =>
      match arg.toList with
      | '-' :: 'h' :: _ => .error .help
      | _ => .error .misuse

def layoutOption : OptionRule := ⟨"layout", true, true⟩
def settingsOption : OptionRule := ⟨"config", true, false⟩

def readFor (rules : List OptionRule) (topic : Topic) (args : List String)
    (request : Given → Option Request) : Reading :=
  match readOptions rules args [] with
  | .error .help => .help topic
  | .error .misuse => .misuse
  | .ok given =>
    match request given with
    | some request => .request request
    | none => .misuse

def layoutOf (given : Given) : Option Path := (given.lookup "layout").map Path.mk

def settingsOf (given : Given) : Option Path := (given.lookup "config").map Path.mk

def readRequest (name : String) (args : List String) : Reading :=
  if name = "preflight" then readFor [] .preflight args fun _ => some .preflight
  else if name = "wipe" then
    readFor [settingsOption] .wipe args fun given => some (.wipe (settingsOf given))
  else if name = "plan" then
    readFor [layoutOption] .plan args fun given => (layoutOf given).map .plan
  else if name = "apply" then
    readFor [layoutOption, settingsOption, ⟨"reinstall", false, false⟩, ⟨"teardown", false, false⟩]
      .apply args fun given => (layoutOf given).map fun layout =>
        .apply layout (settingsOf given) (given.lookup "reinstall").isSome
          (given.lookup "teardown").isSome
  else .misuse

def topicOf? (name : String) : Option Topic :=
  [("preflight", Topic.preflight), ("wipe", .wipe), ("apply", .apply), ("plan", .plan),
    ("help", .help)].lookup name

def readHelp : List String → Reading
  | [] => .help .program
  | [name] => match topicOf? name with
    | some topic => .help topic
    | none => .misuse
  | _ => .misuse

def read : List String → Reading
  | [] => .misuse
  | name :: args =>
    if name = "help" then readHelp args
    else if name = "--help" then .help .program
    else if name = "--version" then .version
    else match name.toList with
      | '-' :: 'h' :: _ => .help .program
      | '-' :: 'V' :: _ => .version
      | _ => readRequest name args

end NodeStorage.CommandLine
