import NodeStorage.Command
import NodeStorage.Failure
import NodeStorage.FileTree

/-! Steps of a run, what they meet and what they leave behind. The machine answers commands and mounts;
its answer may depend on everything that has been asked of it before. The world holds the files, what
has been asked so far, and the notices for the operator, both in order. A step asks the machine, changes
the world and either yields a value or fails; what it did before it failed stays done. A session is a
step that also carries a state of its own from one call to the next, and keeps what it changed there
when it fails. -/

namespace NodeStorage

structure MountRequest where
  source : String
  target : Path
  type : Option String
  flags : Nat
  data : Option String
  deriving DecidableEq, Repr

/-- Something asked of the machine, whether it was granted or not. -/
inductive Event where
  | command (command : Command)
  | mount (request : MountRequest)
  | unmount (target : Path)
  deriving DecidableEq, Repr

structure Output where
  stdout : String := ""
  stderr : String := ""
  deriving DecidableEq, Repr, Inhabited

/-- `canonical` resolves the name of a device file; it is absent when there is no such file.
`refuse` is why no directory or file can be made at a path that the tree of files has room for, and
`unstarted` why so many workers cannot be started side by side. -/
structure Machine where
  run : List Event → Command → Except Failure Output
  mount : List Event → MountRequest → Except Failure Unit
  unmount : List Event → Path → Except Failure Unit
  canonical : String → Option String
  refuse : List Event → Path → Option IoFault := fun _ _ => none
  unstarted : List Event → Nat → Option String := fun _ _ => none

inductive Level where
  | info
  | warning
  | error
  deriving DecidableEq, Repr

def Level.text : Level → String
  | info => "INFO"
  | warning => "WARN"
  | error => "ERROR"

/-- A message for the operator. Disks are wiped side by side; what is said about one of them while
this happens names it in `disk`, and stands in no fixed order to what is said about others. -/
structure Notice where
  level : Level
  text : String
  disk : Option String := none
  deriving DecidableEq, Repr

namespace Notice

def info (text : String) : Notice := ⟨.info, text, none⟩
def warning (text : String) : Notice := ⟨.warning, text, none⟩
def error (text : String) : Notice := ⟨.error, text, none⟩

def stepFailed (what : String) (failure : Failure) : Notice :=
  warning (what ++ " failed, continuing: " ++ failure.message)

def line (notice : Notice) : String := notice.level.text ++ " " ++ notice.text

end Notice

structure World where
  files : FileTree
  events : List Event := []
  notices : List Notice := []
  deriving Repr

def Step (α : Type) : Type := Machine → World → Except Failure α × World

namespace Step

def pure (a : α) : Step α := fun _ w => (.ok a, w)

def bind (x : Step α) (f : α → Step β) : Step β := fun m w =>
  match x m w with
  | (.ok a, w) => f a m w
  | (.error failure, w) => (.error failure, w)

instance : Monad Step where
  pure := Step.pure
  bind := Step.bind

theorem pure_apply (a : α) (m : Machine) (w : World) :
    (Pure.pure a : Step α) m w = (.ok a, w) := rfl

theorem bind_apply (x : Step α) (f : α → Step β) (m : Machine) (w : World) :
    (x >>= f) m w = match x m w with
      | (.ok a, w) => f a m w
      | (.error failure, w) => (.error failure, w) := rfl

theorem bind_pure_id (x : Step α) : Step.bind x Step.pure = x := by
  funext m w
  simp only [Step.bind, Step.pure]
  split <;> simp_all

theorem bind_bind (x : Step α) (f : α → Step β) (g : β → Step γ) :
    Step.bind (Step.bind x f) g = Step.bind x fun a => Step.bind (f a) g := by
  funext m w
  simp only [Step.bind]
  split <;> rename_i h <;> split at h <;> simp_all

instance : LawfulMonad Step :=
  LawfulMonad.mk' Step bind_pure_id (fun _ _ => rfl) bind_bind

def fail (failure : Failure) : Step α := fun _ w => (.error failure, w)

def ofExcept (result : Except Failure α) : Step α := fun _ w => (result, w)

def attempt (x : Step α) : Step (Except Failure α) := fun m w =>
  let (result, w) := x m w
  (.ok result, w)

def naming (name : String) (x : Step α) : Step α := fun m w =>
  let (result, w) := x m w
  (result.mapError (.target name), w)

def note (notice : Notice) : Step Unit := fun _ w =>
  (.ok (), { w with notices := w.notices ++ [notice] })

def run (command : Command) : Step Output := fun m w =>
  (m.run w.events command, { w with events := w.events ++ [.command command] })

def mount (request : MountRequest) : Step Unit := fun m w =>
  (m.mount w.events request, { w with events := w.events ++ [.mount request] })

def unmount (target : Path) : Step Unit := fun m w =>
  (m.unmount w.events target, { w with events := w.events ++ [.unmount target] })

def startWorkers (count : Nat) : Step Unit := fun m w =>
  match m.unstarted w.events count with
  | some reason => (.error (.workersNotStarted reason), w)
  | none => (.ok (), w)

def canonical (device : String) : Step (Option String) := fun m w => (.ok (m.canonical device), w)

def look (f : FileTree → α) : Step α := fun _ w => (.ok (f w.files), w)

def lookOrFail (f : FileTree → Except IoFault α) : Step α := fun _ w =>
  ((f w.files).mapError .io, w)

/-- Writes a file in its directory and says why it could not; the files then stay as they were. -/
def tryWriteText (p : Path) (content : String) : Step (Except IoFault Unit) := fun m w =>
  match m.refuse w.events p with
  | some fault => (.ok (.error fault), w)
  | none =>
    match w.files.writeText p content with
    | .ok files => (.ok (.ok ()), { w with files := files })
    | .error fault => (.ok (.error fault), w)

def writeText (p : Path) (content : String) : Step Unit := do
  match ← tryWriteText p content with
  | .ok _ => return
  | .error fault => fail (.io fault)

def makeDirectories (p : Path) : Step Unit := fun m w =>
  match m.refuse w.events p with
  | some fault => (.error (.io fault), w)
  | none =>
    let (result, files) := w.files.makeDirectories p
    (result.mapError .io, { w with files := files })

def bestEffort (what : String) (x : Step α) : Step Bool := do
  match ← attempt x with
  | .ok _ => return true
  | .error failure => do
    note (.stepFailed what failure)
    return false

def forEach (f : α → Step β) : List α → Step (List β)
  | [] => Pure.pure []
  | a :: rest => do
    let b ← f a
    let bs ← forEach f rest
    return b :: bs

end Step

def Session (σ α : Type) : Type := Machine → σ → World → Except Failure α × σ × World

namespace Session

def pure (a : α) : Session σ α := fun _ s w => (.ok a, s, w)

def bind (x : Session σ α) (f : α → Session σ β) : Session σ β := fun m s w =>
  match x m s w with
  | (.ok a, s, w) => f a m s w
  | (.error failure, s, w) => (.error failure, s, w)

instance : Monad (Session σ) where
  pure := Session.pure
  bind := Session.bind

theorem bind_apply (x : Session σ α) (f : α → Session σ β) (m : Machine) (s : σ) (w : World) :
    (x >>= f) m s w = match x m s w with
      | (.ok a, s, w) => f a m s w
      | (.error failure, s, w) => (.error failure, s, w) := rfl

def lift (x : Step α) : Session σ α := fun m s w =>
  let (result, w) := x m w
  (result, s, w)

instance : MonadLift Step (Session σ) := ⟨lift⟩

def state : Session σ σ := fun _ s w => (.ok s, s, w)

def update (f : σ → σ) : Session σ Unit := fun _ s w => (.ok (), f s, w)

def forEach (f : α → Session σ Unit) : List α → Session σ Unit
  | [] => Pure.pure ()
  | a :: rest => do
    f a
    forEach f rest

def outcome (first : σ) (x : Session σ α) : Step (Except Failure α × σ) := fun m w =>
  let (result, s, w) := x m first w
  (.ok (result, s), w)

def whole (first : σ) (x : Session σ α) : Step α := fun m w =>
  let (result, _, w) := x m first w
  (result, w)

end Session

end NodeStorage
