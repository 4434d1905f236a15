import NodeStorage.Text.Numeral

/-! Strings, comments and line ends in TOML text. A string of one line or of several stands between
double quotes, with escapes, or between apostrophes, without. A line ends at a line feed with or
without a carriage return before it; no other control character than the tab stands anywhere. -/

namespace NodeStorage.Toml

open Text

def isPlain (c : Char) : Bool := c == '\t' || (decide (0x20 ≤ c.toNat) && c != '\x7f')

def isGap (c : Char) : Bool := c == ' ' || c == '\t'

def skipBlank (cs : List Char) : List Char := cs.dropWhile isGap

def lineEnd? : List Char → Option (List Char)
  | '\n' :: cs => some cs
  | '\r' :: '\n' :: cs => some cs
  | _ => none

/-- Skips spaces, tabs, line ends and comments; `comment` says that a comment is open. -/
def skipLines (comment : Bool) : List Char → List Char
  | [] => []
  | '\n' :: cs => skipLines false cs
  | '\r' :: '\n' :: cs => skipLines false cs
  | c :: cs =>
    if comment then if isPlain c then skipLines true cs else c :: cs
    else if c = '#' then skipLines true cs
    else if isGap c then skipLines false cs
    else c :: cs

def restOfLine? (cs : List Char) : Option (List Char) :=
  let cs := match skipBlank cs with
    | '#' :: rest => rest.dropWhile isPlain
    | rest => rest
  if cs.isEmpty then some [] else lineEnd? cs

def codePoint? (count : Nat) (cs : List Char) : Option (Char × List Char) :=
  (hexNumber? count 0 cs).bind fun (n, rest) =>
    if n.isValidChar then some (.ofNat n, rest) else none

def escaped? : List Char → Option (Char × List Char)
  | [] => none
  | c :: cs =>
    if c = 'x' then codePoint? 2 cs
    else if c = 'u' then codePoint? 4 cs
    else if c = 'U' then codePoint? 8 cs
    else if c = '"' ∨ c = '\\' then some (c, cs)
    else if c = 'b' then some ('\x08', cs)
    else if c = 't' then some ('\t', cs)
    else if c = 'n' then some ('\n', cs)
    else if c = 'f' then some ('\x0c', cs)
    else if c = 'r' then some ('\r', cs)
    else if c = 'e' then some ('\x1b', cs)
    else none

/-- The characters up to the closing double quote, which must stand on the same line. `budget`
bounds the number of characters and escapes. -/
def basicBody? : (budget : Nat) → List Char → Option (List Char × List Char)
  | 0, _ => none
  | _, [] => none
  | budget + 1, c :: cs =>
    if c = '"' then some ([], cs)
    else do
      let (d, rest) ←
        if c = '\\' then escaped? cs else if isPlain c then some (c, cs) else none
      let (body, tail) ← basicBody? budget rest
      some (d :: body, tail)

def literalBody? (cs : List Char) : Option (List Char × List Char) :=
  let inside (c : Char) : Bool := isPlain c && c != '\x27'
  match cs.dropWhile inside with
  | '\x27' :: rest => some (cs.takeWhile inside, rest)
  | _ => none

/-- The quotes that close a string of several lines: three, and up to two more that belong to the
string. -/
def closing? (quote : Char) (cs : List Char) : Option (List Char × List Char) :=
  let run := (cs.takeWhile (· == quote)).length
  if run < 3 then none
  else some (List.replicate (min run 5 - 3) quote, cs.drop (min run 5))

def skipSpace : List Char → List Char
  | [] => []
  | '\n' :: cs => skipSpace cs
  | '\r' :: '\n' :: cs => skipSpace cs
  | c :: cs => if isGap c then skipSpace cs else c :: cs

def continued? (cs : List Char) : Option (List Char) := (lineEnd? (skipBlank cs)).map skipSpace

/-- A string of several lines, from its first character on. `escapes` says that backslashes
escape. -/
def linesBody? (quote : Char) (escapes : Bool) :
    (budget : Nat) → List Char → Option (List Char × List Char)
  | 0, _ => none
  | _, [] => none
  | budget + 1, c :: cs =>
    match closing? quote (c :: cs) with
    | some closed => some closed
    | none =>
      if escapes && c == '\\' then
        match continued? cs with
        | some rest => linesBody? quote escapes budget rest
        | none => do
          let (d, rest) ← escaped? cs
          let (body, tail) ← linesBody? quote escapes budget rest
          some (d :: body, tail)
      else
        match lineEnd? (c :: cs) with
        | some rest => do
          let (body, tail) ← linesBody? quote escapes budget rest
          some ((c :: cs).take ((c :: cs).length - rest.length) ++ body, tail)
        | none =>
          if isPlain c then do
            let (body, tail) ← linesBody? quote escapes budget cs
            some (c :: body, tail)
          else none

def shortText? : List Char → Option (List Char × List Char)
  | '"' :: cs => basicBody? cs.length cs
  | '\x27' :: cs => literalBody? cs
  | _ => none

/-- A string of either kind. A line end right after the opening quotes does not belong to it. -/
def text? (cs : List Char) : Option (List Char × List Char) :=
  match cs with
  | '"' :: '"' :: '"' :: rest =>
    let body := (lineEnd? rest).getD rest
    linesBody? '"' true body.length body
  | '\x27' :: '\x27' :: '\x27' :: rest =>
    let body := (lineEnd? rest).getD rest
    linesBody? '\x27' false body.length body
  | _ => shortText? cs

end NodeStorage.Toml
