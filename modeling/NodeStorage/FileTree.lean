import NodeStorage.Keyed
import NodeStorage.Path
import NodeStorage.SystemError
import NodeStorage.Text.Utf8

/-! A tree of directories and files and what the operating system does with it. Every entry but the
root has its place, the names that lead to it from the root; relative paths start at the working
directory. There are no links, so a name leads to one place. Entries are listed in the order in
which they came. -/

namespace NodeStorage

abbrev Place := List String

inductive Entry where
  | directory
  | file (content : List UInt8)
  deriving DecidableEq, Repr

structure FileTree where
  entries : List (Place × Entry)
  working : Place
  deriving Repr, DecidableEq

namespace FileTree

/-- In bytes. -/
def longestName : Nat := 255

/-- In bytes. -/
def longestPath : Nat := 4095

def lookup? (t : FileTree) (place : Place) : Option Entry :=
  if place = [] then some .directory else t.entries.lookup place

def put (t : FileTree) (place : Place) (entry : Entry) : FileTree :=
  { t with entries := Keyed.put place entry t.entries }

theorem lookup?_put (t : FileTree) (place : Place) (entry : Entry) (h : place ≠ []) :
    (t.put place entry).lookup? place = some entry := by
  simp [lookup?, put, h, Keyed.lookup_put]

theorem lookup?_put_ne (t : FileTree) (place other : Place) (entry : Entry) (h : other ≠ place) :
    (t.put place entry).lookup? other = t.lookup? other := by
  simp [lookup?, put, Keyed.lookup_put_ne place other entry t.entries h]

def namesBelow (t : FileTree) (place : Place) : List String :=
  t.entries.filterMap fun (p, _) => if p.dropLast = place then p.getLast? else none

/-- Where one more name leads from a place, whether or not anything is there yet. -/
def enter (t : FileTree) (place : Place) (name : String) : Except IoFault Place :=
  match t.lookup? place with
  | none => .error .notFound
  | some (.file _) => .error .notDirectory
  | some .directory =>
    if name = "." then .ok place
    else if name = ".." then .ok place.dropLast
    else if longestName < name.utf8ByteSize then .error .nameTooLong
    else .ok (place ++ [name])

def start (t : FileTree) (p : Path) : Place := if p.isAbsolute then [] else t.working

def checkPath (p : Path) : Except IoFault Unit :=
  if '\x00' ∈ p.chars then .error .nulInName
  else if p.chars = [] then .error .notFound
  else if longestPath < p.text.utf8ByteSize then .error .nameTooLong
  else .ok ()

def find (t : FileTree) (p : Path) : Except IoFault (Place × Entry) := do
  checkPath p
  let place ← p.names.foldlM t.enter (t.start p)
  match t.lookup? place with
  | none => .error .notFound
  | some .directory => .ok (place, .directory)
  | some (.file content) =>
    if p.endsInSlash then .error .notDirectory else .ok (place, .file content)

def findDirectory (t : FileTree) (p : Path) : Except IoFault Place := do
  let place ← p.names.dropLast.foldlM t.enter (t.start p)
  t.enter place "."

theorem lookup?_of_enter {t : FileTree} {place next : Place} {name : String}
    (h : t.enter place name = .ok next) : t.lookup? place = some .directory := by
  unfold enter at h
  split at h
  · simp at h
  · simp at h
  · assumption

/-- Where the last name of a path belongs: the place of its directory, and the name itself unless it
is a dot, two dots or the root. -/
def findParent (t : FileTree) (p : Path) : Except IoFault (Option Place) := do
  checkPath p
  match p.names.getLast? with
  | none => .ok none
  | some last =>
    let place ← t.enter (← t.findDirectory p) last
    .ok (if last = "." ∨ last = ".." then none else some place)

def isDirectory (t : FileTree) (p : Path) : Bool :=
  match t.find p with
  | .ok (_, .directory) => true
  | _ => false

def isFile (t : FileTree) (p : Path) : Bool :=
  match t.find p with
  | .ok (_, .file _) => true
  | _ => false

def readBytes (t : FileTree) (p : Path) : Except IoFault (List UInt8) :=
  match t.find p with
  | .error fault => .error fault
  | .ok (_, .directory) => .error .isDirectory
  | .ok (_, .file content) => .ok content

def readText (t : FileTree) (p : Path) : Except IoFault String :=
  (t.readBytes p).bind fun bytes =>
    match String.fromUTF8? bytes.toByteArray with
    | some s => .ok s
    | none => .error .notUtf8

def list (t : FileTree) (p : Path) : Except IoFault (List String) :=
  match t.find p with
  | .error fault => .error fault
  | .ok (place, .directory) => .ok (t.namesBelow place)
  | .ok (_, .file _) => .error .notDirectory

def canonical? (t : FileTree) (p : Path) : Option Path :=
  match t.find p with
  | .ok (place, _) => some ⟨"/" ++ Text.joined "/" place⟩
  | .error _ => none

def makeDirectory (t : FileTree) (p : Path) : Except IoFault FileTree := do
  match ← t.findParent p with
  | none => .error .alreadyExists
  | some place =>
    if (t.lookup? place).isSome then .error .alreadyExists else .ok (t.put place .directory)

/-- Goes up through a path and its parents to the first that could be made or is there already.
Gives the paths that are still missing, from the top down, and the tree so far. -/
def nearest (t : FileTree) : List Path → List Path → Except IoFault (List Path × FileTree)
  | missing, [] => .ok (missing, t)
  | missing, p :: parents =>
    match t.makeDirectory p with
    | .ok t => .ok (missing, t)
    | .error fault =>
      if fault = .notFound then t.nearest (p :: missing) parents
      else if fault = .alreadyExists ∧ t.isDirectory p then .ok (missing, t)
      else .error fault

def makeMissing (t : FileTree) : List Path → Except IoFault Unit × FileTree
  | [] => (.ok (), t)
  | p :: rest =>
    match t.makeDirectory p with
    | .ok t => t.makeMissing rest
    | .error fault =>
      if fault = .alreadyExists ∧ t.isDirectory p then t.makeMissing rest else (.error fault, t)

/-- Makes a directory and those above it that are not there. Directories made before one cannot be
made remain. -/
def makeDirectories (t : FileTree) (p : Path) : Except IoFault Unit × FileTree :=
  match t.nearest [] p.ancestors with
  | .error fault => (.error fault, t)
  | .ok (missing, t) => t.makeMissing missing

def write (t : FileTree) (p : Path) (content : List UInt8) : Except IoFault FileTree := do
  checkPath p
  let _ ← t.findDirectory p
  if p.endsInSlash then .error .isDirectory
  else match ← t.findParent p with
    | none => .error .isDirectory
    | some place =>
      match t.lookup? place with
      | some .directory => .error .isDirectory
      | _ => .ok (t.put place (.file content))

def writeText (t : FileTree) (p : Path) (content : String) : Except IoFault FileTree :=
  t.write p (Text.utf8 content.toList)

end FileTree

end NodeStorage
