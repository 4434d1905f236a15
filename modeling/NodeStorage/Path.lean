import NodeStorage.Text.Search

/-! Paths as they are written. A path keeps its spelling: repeated slashes and dots stand until the
path is resolved, only joining and leaving off the last name cut at its ends. An absolute path
joined below a root loses what makes it absolute. -/

namespace NodeStorage

open Text

structure Path where
  text : String
  deriving DecidableEq, Repr, Inhabited

namespace Path

def chars (p : Path) : List Char := p.text.toList

def ofChars (cs : List Char) : Path := ⟨.ofList cs⟩

theorem chars_ofChars (cs : List Char) : (ofChars cs).chars = cs := by
  simp [ofChars, chars]

def isAbsolute (p : Path) : Bool := p.chars.head? == some '/'

def pieces (p : Path) : List (List Char) := p.chars.splitOn '/'

def isStay (piece : List Char) : Bool := piece.isEmpty || piece == ['.']

def components (p : Path) : List (List Char) := p.pieces.filter (!isStay ·)

def names (p : Path) : List String := (p.pieces.filter (!·.isEmpty)).map .ofList

def endsInSlash (p : Path) : Bool := p.chars.getLast? == some '/'

def ofPieces (pieces : List (List Char)) : List Char := ['/'].intercalate pieces

def dropLastStays (pieces : List (List Char)) : List (List Char) :=
  (pieces.reverse.dropWhile isStay).reverse

/-- An absolute path seen from the root: without the slashes and dots at its two ends. -/
def belowRoot (p : Path) : List Char := ofPieces (dropLastStays (p.pieces.dropWhile isStay))

/-- One slash between, unless the first part is empty or already ends in one. -/
def joinChars (root rest : List Char) : List Char :=
  if root.isEmpty || root.getLast? == some '/' then root ++ rest else root ++ '/' :: rest

/-- The path below a root, whether it is written as an absolute path or not. -/
def within (root p : Path) : Path :=
  ofChars (joinChars root.chars (if p.isAbsolute then p.belowRoot else p.chars))

def child (dir : Path) (name : String) : Path := ofChars (joinChars dir.chars name.toList)

/-- The first character where it is not part of a name: the root, or the dot of `./`. -/
def lead (p : Path) : List Char :=
  match p.chars with
  | '/' :: _ => ['/']
  | ['.'] => ['.']
  | '.' :: '/' :: _ => ['.']
  | _ => []

/-- The path without its last name. The root and the empty path have none to lose. -/
def parent? (p : Path) : Option Path :=
  let body := dropLastStays ((p.chars.drop p.lead.length).splitOn '/')
  match body with
  | [] => if p.lead = ['.'] then some ⟨""⟩ else none
  | _ => some (ofChars (p.lead ++ ofPieces (dropLastStays body.dropLast)))

/-- The path and its parents, longest first, but neither the root nor the empty path. The number of
characters bounds their number. -/
def ancestors (p : Path) : List Path := go p.chars.length p
where
  go : Nat → Path → List Path
  | 0, _ => []
  | n + 1, p =>
    match p.parent? with
    | none => []
    | some parent => p :: go n parent

def fileName? (p : Path) : Option (List Char) :=
  (dropLastStays p.pieces).getLast?.bind fun piece => if piece = ['.', '.'] then none else some piece

/-- What follows the last dot of the name, unless the dot is the first character of the name. -/
def extension? (p : Path) : Option String :=
  p.fileName?.bind fun name =>
    let after := (name.reverse.takeWhile (· != '.')).reverse
    if after.length + 1 < name.length then some (.ofList after) else none

end Path

end NodeStorage
