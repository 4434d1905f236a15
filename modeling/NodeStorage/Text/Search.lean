/-! Finding, dividing and joining text by fixed pieces of text, and the divisions that rest on blank
characters. Blank is the property White_Space, twenty-five characters. A line ends at a line feed; one
carriage return before the line feed belongs to the ending, a last line without line feed keeps its
carriage return. -/

namespace NodeStorage.Text

def isBlank (c : Char) : Bool :=
  let n := c.toNat
  (9 ≤ n && n ≤ 13) || n == 0x20 || n == 0x85 || n == 0xA0 || n == 0x1680 ||
    (0x2000 ≤ n && n ≤ 0x200A) || n == 0x2028 || n == 0x2029 || n == 0x202F || n == 0x205F ||
    n == 0x3000

def trimChars (cs : List Char) : List Char :=
  ((cs.dropWhile isBlank).reverse.dropWhile isBlank).reverse

def trim (s : String) : String := .ofList (trimChars s.toList)

theorem toList_trim (s : String) : (trim s).toList = trimChars s.toList := by
  simp [trim]

theorem trimChars_nil : trimChars [] = [] := rfl

def words (s : String) : List String :=
  ((s.toList.splitOnP isBlank).filter (!·.isEmpty)).map .ofList

/-- A piece that a line feed ended, without the carriage return of that ending. -/
def withoutReturn (piece : List Char) : List Char :=
  if piece.getLast? = some '\r' then piece.dropLast else piece

def lineChars (cs : List Char) : List (List Char) :=
  let pieces := cs.splitOn '\n'
  let ended := pieces.dropLast.map withoutReturn
  match pieces.getLast? with
  | some (c :: rest) => ended ++ [c :: rest]
  | _ => ended

def lines (s : String) : List String := (lineChars s.toList).map .ofList

def startsWith (piece s : String) : Bool := piece.toList.isPrefixOf s.toList

theorem startsWith_iff {piece s : String} : startsWith piece s = true ↔ piece.toList <+: s.toList :=
  List.isPrefixOf_iff_prefix

def holdsChars (piece : List Char) : List Char → Bool
  | [] => piece.isEmpty
  | c :: cs => piece.isPrefixOf (c :: cs) || holdsChars piece cs

theorem holdsChars_iff {piece cs : List Char} : holdsChars piece cs = true ↔ piece <:+: cs := by
  induction cs with
  | nil => simp [holdsChars]
  | cons c cs ih =>
    rw [holdsChars, Bool.or_eq_true, List.isPrefixOf_iff_prefix, ih, List.infix_cons_iff]

def holds (piece s : String) : Bool := holdsChars piece.toList s.toList

theorem holds_iff {piece s : String} : holds piece s = true ↔ piece.toList <:+: s.toList :=
  holdsChars_iff

def divideChars (piece : List Char) : List Char → Option (List Char × List Char)
  | [] => if piece.isEmpty then some ([], []) else none
  | c :: cs =>
    if piece.isPrefixOf (c :: cs) then some ([], (c :: cs).drop piece.length)
    else (divideChars piece cs).map fun (before, after) => (c :: before, after)

def divide (piece s : String) : Option (String × String) :=
  (divideChars piece.toList s.toList).map fun (before, after) => (.ofList before, .ofList after)

/-- Drops `piece` from the front for as long as it stands there; an empty piece drops nothing. -/
def dropLeading (piece cs : List Char) : List Char :=
  if _h : piece ≠ [] ∧ piece <+: cs then dropLeading piece (cs.drop piece.length) else cs
termination_by cs.length
decreasing_by
  have := List.length_pos_iff.2 _h.1
  have := _h.2.length_le
  simp only [List.length_drop]
  omega

def joined (between : String) (pieces : List String) : String :=
  .ofList (between.toList.intercalate (pieces.map String.toList))

theorem toList_joined (between : String) (pieces : List String) :
    (joined between pieces).toList = between.toList.intercalate (pieces.map String.toList) := by
  simp [joined]

end NodeStorage.Text
