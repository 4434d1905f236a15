import NodeStorage.Run.Step
import NodeStorage.Text.Search

/-! Commands run as programs of the operating system, and kernel calls that are refused before they
are made. What a program printed need not be UTF-8; a program that failed is reported with what it
said, preferably about its errors. -/

namespace NodeStorage

open Text

/-- How a program ended: with a status, or by a signal if there is none. -/
structure ProcessEnd where
  stdout : List UInt8 := []
  stderr : List UInt8 := []
  status : Option Int := some 0
  deriving DecidableEq, Repr

namespace ProcessEnd

def outText (ended : ProcessEnd) : String := .ofList (lossyChars ended.stdout)

def errorText (ended : ProcessEnd) : String := .ofList (lossyChars ended.stderr)

def complaint (ended : ProcessEnd) : String :=
  if trim ended.errorText = "" then trim ended.outText else trim ended.errorText

def result (ended : ProcessEnd) (command : Command) : Except Failure Output :=
  if ended.status = some 0 then .ok ⟨ended.outText, ended.errorText⟩
  else .error (.executionFailed command.line ended.status ended.complaint)

end ProcessEnd

def Command.holdsNul (command : Command) : Bool :=
  command.args.any (·.toList.contains '\x00')

def Command.asProcess (isPresent : String → Bool) (start : Command → Except IoFault ProcessEnd)
    (command : Command) : Except Failure Output :=
  if !isPresent command.tool.binary then .error (.toolNotFound command.tool.binary)
  else if command.holdsNul then .error (.io .nulInArgument)
  else match start command with
    | .ok ended => ended.result command
    | .error fault => .error (.io fault)

namespace MountRequest

def line (request : MountRequest) : String :=
  "mount -t " ++ request.type.getD "none" ++ " " ++ request.source ++ " " ++ request.target.text

def refused (request : MountRequest) (number : Nat) : Failure :=
  .executionFailed request.line (some number) (IoFault.systemText number)

def holdsNul (request : MountRequest) : Bool :=
  [some request.source, some request.target.text, request.type, request.data].any fun text =>
    (text.getD "").toList.contains '\x00'

end MountRequest

def unmountRefused (target : Path) (number : Nat) : Failure :=
  .executionFailed ("umount --force " ++ target.text) (some number) (IoFault.systemText number)

def invalidArgument : Nat := 22

/-- Hands a mount to the kernel, which gives the number of an error if it refuses. -/
def MountRequest.asCall (kernel : MountRequest → Option Nat) (request : MountRequest) :
    Except Failure Unit :=
  match if request.holdsNul then some invalidArgument else kernel request with
  | some number => .error (request.refused number)
  | none => .ok ()

def unmountAsCall (kernel : Path → Option Nat) (target : Path) : Except Failure Unit :=
  match if target.chars.contains '\x00' then some invalidArgument else kernel target with
  | some number => .error (unmountRefused target number)
  | none => .ok ()

end NodeStorage
