import NodeStorage.Toml.Number
import NodeStorage.Toml.Table
import NodeStorage.Toml.Text

/-! Reading TOML text, version 1.1, as a document. A byte order mark may stand in front. At most
eighty lists and tables between braces may be open at once, and a key has at most eighty pieces. -/

namespace NodeStorage.Toml

open Text

def deepest : Nat := 80

def isBare (c : Char) : Bool := c.isAlphanum || c == '_' || c == '-'

def keyPiece? (cs : List Char) : Option (String × List Char) :=
  if (cs.takeWhile isBare).isEmpty then
    (shortText? cs).map fun (body, rest) => (.ofList body, rest)
  else some (.ofList (cs.takeWhile isBare), cs.dropWhile isBare)

def laterPieces? (cs : List Char) : (budget : Nat) → Option (List String × List Char)
  | 0 => none
  | budget + 1 =>
    match skipBlank cs with
    | '.' :: rest => do
      let (piece, rest) ← keyPiece? (skipBlank rest)
      let (pieces, rest) ← laterPieces? rest budget
      some (piece :: pieces, rest)
    | rest => some ([], rest)

def key? (cs : List Char) : Option (List String × List Char) := do
  let (piece, rest) ← keyPiece? (skipBlank cs)
  let (pieces, rest) ← laterPieces? rest deepest
  some (piece :: pieces, rest)

def separators : List Char := ['=', ',', '[', ']', '\x7b', '\x7d', '#', '\r', '\n']

def isWordChar (c : Char) : Bool := !isGap c && !separators.contains c

def startsWord (c : Char) : Bool := isWordChar c && c != '.' && c != '"' && c != '\x27'

/-- A word and the text after it. Blanks before the start of another word join the two, as a date
and a time of day are joined. -/
def wordAt : List Char → List Char × List Char
  | [] => ([], [])
  | c :: cs =>
    if isWordChar c || (isGap c && (skipBlank cs).head?.any startsWord) then
      let (word, rest) := wordAt cs
      (c :: word, rest)
    else ([], c :: cs)

def word? (word : List Char) : Option Document :=
  if word = "true".toList then some (.bool true)
  else if word = "false".toList then some (.bool false)
  else number? word <|> moment? word

def scalar? (cs : List Char) : Option (Document × List Char) :=
  match cs with
  | [] => none
  | c :: _ =>
    if c = '"' ∨ c = '\x27' then
      (text? cs).map fun (body, rest) => (.text (.ofList body), rest)
    else
      let (word, rest) := wordAt cs
      (word? word).map fun v => (v, rest)

/-- Items between commas up to the closing bracket; a comma may follow the last. `budget` bounds
their number. -/
def itemsUntil (close : Char) (item : List Char → Option (α × List Char)) :
    (budget : Nat) → List Char → Option (List α × List Char)
  | 0, _ => none
  | budget + 1, cs =>
    match skipLines false cs with
    | [] => none
    | c :: rest =>
      if c = close then some ([], rest)
      else do
        let (x, rest) ← item (c :: rest)
        match skipLines false rest with
        | [] => none
        | d :: rest =>
          if d = ',' then do
            let (xs, rest) ← itemsUntil close item budget rest
            some (x :: xs, rest)
          else if d = close then some ([x], rest)
          else none

/-- A key and its value; `skip` leaves out what may stand around the equals sign. -/
def assignment? (skip : List Char → List Char) (value : List Char → Option (Document × List Char))
    (cs : List Char) : Option ((List String × Document) × List Char) := do
  let (key, rest) ← key? cs
  let (v, rest) ← value (skip (← mark? '=' (skip rest)))
  some ((key, v), rest)

/-- A value in which `room` lists and tables may be open at once. -/
def value? : (room : Nat) → List Char → Option (Document × List Char)
  | 0, cs =>
    match cs with
    | '[' :: _ => none
    | '\x7b' :: _ => none
    | cs => scalar? cs
  | room + 1, cs =>
    match cs with
    | '[' :: rest =>
      (itemsUntil ']' (value? room) (rest.length + 1) rest).map fun (items, tail) =>
        (.list items, tail)
    | '\x7b' :: rest => do
      let (entries, tail) ←
        itemsUntil '\x7d' (assignment? (skipLines false) (value? room)) (rest.length + 1) rest
      some (← ofAssignments? entries, tail)
    | cs => scalar? cs

def statement? (cs : List Char) : Option (Statement × List Char) :=
  match cs with
  | '[' :: '[' :: rest => do
    let (path, rest) ← key? rest
    let rest ← mark? ']' (← mark? ']' rest)
    some (.element path, rest)
  | '[' :: rest => do
    let (path, rest) ← key? rest
    let rest ← mark? ']' rest
    some (.table path, rest)
  | cs =>
    (assignment? skipBlank (value? deepest) cs).map fun ((key, v), rest) =>
      (.assignment key v, rest)

def statements? : (budget : Nat) → List Char → Option (List Statement)
  | 0, _ => none
  | budget + 1, cs =>
    match skipLines false cs with
    | [] => some []
    | c :: cs => do
      let (statement, rest) ← statement? (c :: cs)
      let statements ← statements? budget (← restOfLine? rest)
      some (statement :: statements)

def withoutMark : List Char → List Char
  | '\uFEFF' :: cs => cs
  | cs => cs

def read? (s : String) : Option Document :=
  let cs := withoutMark s.toList
  (statements? (cs.length + 1) cs).bind ofStatements?

end NodeStorage.Toml
