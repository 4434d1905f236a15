import NodeStorage.CommandLine.Perform
import NodeStorage.Run.Process

/-! The program. It reads the files that its arguments name, does what they ask for, and prints what
there is to print. The machine that it drives starts no command and mounts nothing: each is refused
as a function that is not there, so nothing is changed on the host. -/

namespace NodeStorage.Program

open CommandLine

def namedFiles : Request → List Path
  | .preflight => []
  | .wipe settings => settings.toList
  | .apply layout settings _ _ => layout :: settings.toList
  | .plan layout => [layout]

def readBytes? (path : Path) : IO (Option ByteArray) := do
  try
    return some (← IO.FS.readBinFile path.text)
  catch _ =>
    return none

def withFile (files : FileTree) (path : Path) : IO FileTree := do
  match ← readBytes? path with
  | none => return files
  | some content =>
    let (_, files) := files.makeDirectories (path.parent?.getD ⟨""⟩)
    return (files.write path content.toList).toOption.getD files

def presentTools : IO (List String) := do
  let directories := (((← IO.getEnv "PATH").getD "").toList.splitOn ':').map String.ofList
  let isThere (name : String) : IO Bool :=
    directories.anyM fun directory => do
      return (← readBytes? (Path.child ⟨directory⟩ name)).isSome
  (Tool.all.map Tool.binary).filterM isThere

def notImplemented : Nat := 38

def idleMachine : Machine where
  run := fun _ _ => .error (.io (.system notImplemented))
  mount := fun _ request => request.asCall fun _ => some notImplemented
  unmount := fun _ target => unmountAsCall (fun _ => some notImplemented) target
  canonical := fun _ => none

def run (args : List String) : IO UInt32 := do
  let paths := match read args with
    | .request request => namedFiles request
    | _ => []
  let files ← paths.foldlM withFile ⟨[], []⟩
  let present ← presentTools
  let host : Host := ⟨true, present.contains⟩
  match respond host args idleMachine { files := files } with
  | (.ok outcome, _) => do
    IO.print outcome.stdout
    IO.eprint outcome.stderr
    return outcome.status.toUInt32
  | (.error failure, _) => do
    IO.eprintln failure.message
    return 1

end NodeStorage.Program

def main (args : List String) : IO UInt32 := NodeStorage.Program.run args
