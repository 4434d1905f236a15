import NodeStorage.Document
import NodeStorage.Json.Text
import NodeStorage.Text.Numeral

/-! Reading JSON text as a document. Between tokens stand spaces, tabs, line feeds and carriage returns; at
most 127 lists and records may be open at once; of several fields of one name the last holds. A reader
gives the value and the text after it.

An integer of 64 bits, signed or not, keeps its value; minus zero, a number with a fraction or an
exponent and a longer integer are fractions. A fraction beyond the largest binary64 number is refused.
How large it is follows from the leading digits that fit 64 bits and from the power of ten that is left,
each rounded to binary64 before they are multiplied. -/

namespace NodeStorage.Json

open Text

/-- The nearest natural number of 53 binary digits and trailing zeros, a half going to even. -/
def nearestDouble (n : Nat) : Nat :=
  let unit := Nat.pow 2 (n.log2 + 1 - 53)
  let kept := n / unit
  let cut := n % unit
  if unit < 2 * cut ∨ (2 * cut = unit ∧ kept % 2 = 1) then (kept + 1) * unit else kept * unit

def doubleLimit : Nat := Nat.pow 2 1024 - Nat.pow 2 970

def exceedsDouble (significand : Nat) (exponent : Int) : Bool :=
  significand ≠ 0 &&
    (decide (308 < exponent) ||
      (decide (0 ≤ exponent) &&
        decide (doubleLimit ≤ nearestDouble significand * nearestDouble (Nat.pow 10 exponent.toNat))))

/-- Appends digits to a number of 64 bits for as long as it stays one; the rest is given back. -/
def absorb (n : Nat) : List Char → Nat × List Char
  | [] => (n, [])
  | d :: ds =>
    if 10 * n + digitValue d < Nat.pow 2 64 then absorb (10 * n + digitValue d) ds else (n, d :: ds)

def wholeDigits (cs : List Char) : Option (List Char × List Char) :=
  match cs.takeWhile isDigit with
  | [] => none
  | ['0'] => some (['0'], cs.dropWhile isDigit)
  | d :: ds => if d = '0' then none else some (d :: ds, cs.dropWhile isDigit)

/-- The digits after the point; `none` in the first component when there is no point. -/
def fractionDigits : List Char → Option (Option (List Char) × List Char)
  | '.' :: cs =>
    match cs.takeWhile isDigit with
    | [] => none
    | ds => some (some ds, cs.dropWhile isDigit)
  | cs => some (none, cs)

def exponentSign : List Char → Bool × List Char
  | '+' :: cs => (false, cs)
  | '-' :: cs => (true, cs)
  | cs => (false, cs)

def exponentValue (cs : List Char) : Option (Option Int × List Char) :=
  match cs with
  | c :: rest =>
    if c = 'e' ∨ c = 'E' then
      let (negative, rest) := exponentSign rest
      match rest.takeWhile isDigit with
      | [] => none
      | ds =>
        let n : Int := decimalValue ds
        some (some (if negative then -n else n), rest.dropWhile isDigit)
    else some (none, cs)
  | [] => some (none, [])

def wholeNumber (negative : Bool) (n : Nat) : Document :=
  if negative then
    if 0 < n ∧ n ≤ Nat.pow 2 63 then .integer (-n) else .fraction
  else .integer n

def unsignedNumber (negative : Bool) (cs : List Char) : Option (Document × List Char) := do
  let (whole, rest) ← wholeDigits cs
  let (part, rest) ← fractionDigits rest
  let (exponent, rest) ← exponentValue rest
  let (n, beyond) := absorb 0 whole
  if part.isNone && exponent.isNone && beyond.isEmpty then
    return (wholeNumber negative n, rest)
  let digits := part.getD []
  let (n, dropped) := absorb n digits
  let scale : Int := beyond.length - (digits.length - dropped.length) + exponent.getD 0
  if exceedsDouble n scale then none else return (.fraction, rest)

def number : List Char → Option (Document × List Char)
  | '-' :: cs => unsignedNumber true cs
  | cs => unsignedNumber false cs

def isSpace (c : Char) : Bool := c == ' ' || c == '\n' || c == '\t' || c == '\r'

def skipSpace (cs : List Char) : List Char := cs.dropWhile isSpace

/-- Items between commas up to the closing bracket. `budget` bounds their number. -/
def itemsUntil (close : Char) (item : List Char → Option (α × List Char)) :
    (budget : Nat) → List Char → Option (List α × List Char)
  | 0, _ => none
  | budget + 1, cs => do
    let (x, rest) ← item cs
    match skipSpace rest with
    | c :: rest =>
      if c = ',' then do
        let (xs, rest) ← itemsUntil close item budget rest
        some (x :: xs, rest)
      else if c = close then some ([x], rest)
      else none
    | [] => none

/-- What follows an opening bracket: nothing but the closing one, or items. Every item takes a
character at least, so the length of the text is budget enough. -/
def bracketed (close : Char) (item : List Char → Option (α × List Char)) (cs : List Char) :
    Option (List α × List Char) :=
  match skipSpace cs with
  | [] => none
  | c :: rest => if c = close then some ([], rest) else itemsUntil close item cs.length (c :: rest)

def field (value : List Char → Option (Document × List Char)) (cs : List Char) :
    Option ((String × Document) × List Char) :=
  match skipSpace cs with
  | '"' :: rest => do
    let (key, rest) ← textBody? rest
    match skipSpace rest with
    | ':' :: rest => do
      let (v, rest) ← value rest
      some ((.ofList key, v), rest)
    | _ => none
  | _ => none

def word (letters : List Char) (value : Document) (cs : List Char) :
    Option (Document × List Char) :=
  if letters.isPrefixOf cs then some (value, cs.drop letters.length) else none

def scalar (cs : List Char) : Option (Document × List Char) :=
  match cs with
  | [] => none
  | c :: rest =>
    if c = '"' then (textBody? rest).map fun (body, tail) => (.text (.ofList body), tail)
    else if c = 'n' then word "null".toList .null cs
    else if c = 't' then word "true".toList (.bool true) cs
    else if c = 'f' then word "false".toList (.bool false) cs
    else number cs

/-- A value in which `room` lists and records may be open at once. -/
def value : (room : Nat) → List Char → Option (Document × List Char)
  | 0, cs =>
    match skipSpace cs with
    | '[' :: _ => none
    | '\x7b' :: _ => none
    | cs => scalar cs
  | room + 1, cs =>
    match skipSpace cs with
    | '[' :: rest =>
      (bracketed ']' (value room) rest).map fun (items, tail) => (.list items, tail)
    | '\x7b' :: rest =>
      (bracketed '\x7d' (field (value room)) rest).map
        fun (fields, tail) => (Document.ofFields fields, tail)
    | cs => scalar cs

def deepest : Nat := 127

def read? (s : String) : Option Document :=
  match value deepest s.toList with
  | some (v, rest) => if (skipSpace rest).isEmpty then some v else none
  | none => none

end NodeStorage.Json
