import NodeStorage.Document
import NodeStorage.Text.Numeral

/-! Numbers and moments in TOML text. A number is a word of its own. A decimal number begins with no
superfluous zero and may have a sign; hexadecimal, octal and binary numbers have none. An integer may
have any size, and a fraction keeps no value. Underscores stand between digits; one may follow the sign.

Whether a number has a value is a question of its own. These have none: a fraction beyond every binary64
number, the mark of a radix without digits, and a decimal integer that holds other characters than
digits, which may stand anywhere after its first underscore as long as those next to an underscore are
hexadecimal digits.

A moment is a date, a time of day, or both with an optional distance from universal time. No plan holds
one, so a moment is read as a record of its spelling. -/

namespace NodeStorage.Toml

open Text

/-- Whether every underscore has a digit on both sides. Before the first one, a single character
passes for a digit whatever it is. -/
def isSeparated (isDigit : Char → Bool) (word : List Char) : Bool :=
  match word.splitOn '_' with
  | first :: next :: pieces =>
    (first.length == 1 || first.getLast?.any isDigit) &&
      (next :: pieces).all (·.head?.any isDigit) &&
      (next :: pieces).dropLast.all (·.getLast?.any isDigit)
  | _ => true

def withoutUnderscores (word : List Char) : List Char := word.filter (· != '_')

def unsigned : List Char → Bool × List Char
  | '+' :: cs => (false, cs)
  | '-' :: cs => (true, cs)
  | cs => (false, cs)

def isNumeral (cs : List Char) : Bool := !cs.isEmpty && cs.all isDigit

/-- Whether a number, given without its sign, begins with a zero that is not all of its whole
part. -/
def hasSpareZero (value whole : List Char) : Bool :=
  value.head? == some '0' && decide (1 < whole.length)

/-- Characters that make a word that begins like an integer something else. -/
def isForeign (c : Char) : Bool := c == '.' || c == 'e' || c == 'E' || c == ' '

/-- A decimal integer. With an underscore in it, it may hold characters that give it no value. -/
def decimal? (word : List Char) : Option Document :=
  let (negative, value) := unsigned word
  let digits := withoutUnderscores value
  let rest := value.dropWhile isDigit
  if value.isEmpty || !(rest.isEmpty || rest.head? == some '_') || rest.any isForeign ||
      hasSpareZero value digits || !isSeparated isHexDigit word then none
  else if digits.all isDigit then
    let n : Int := decimalValue digits
    some (.integer (if negative then -n else n))
  else some .unreadable

def radixValue (radix : Nat) (digits : List Char) : Nat :=
  digits.foldl (fun n c => radix * n + (hexValue? c).getD 0) 0

def isDigitBelow (radix : Nat) (c : Char) : Bool :=
  match hexValue? c with
  | some n => decide (n < radix)
  | none => false

def radix? : Char → Option Nat
  | 'x' => some 16
  | 'o' => some 8
  | 'b' => some 2
  | _ => none

def radixNumber? : List Char → Option Document
  | '0' :: c :: word => do
    let radix ← radix? c
    let digits := withoutUnderscores word
    if !digits.all (isDigitBelow radix) || !isSeparated isHexDigit word then none
    else if digits.isEmpty then return .unreadable
    else return .integer (radixValue radix digits)
  | _ => none

def fractionLimit : Nat := Nat.pow 2 1024 - Nat.pow 2 970

/-- Whether the significand times this power of ten is beyond every binary64 number. No number of
more than 310 digits before the point is within, and every number of fewer than 308 is. -/
def exceeds (significand : List Char) (exponent : Int) : Bool :=
  let digits := significand.dropWhile (· == '0')
  let size : Int := digits.length + exponent
  if digits.isEmpty || decide (size < 308) then false
  else if 310 < size then true
  else decide (fractionLimit * Nat.pow 10 (-exponent).toNat ≤
    decimalValue digits * Nat.pow 10 exponent.toNat)

def splitExponent (word : List Char) : List Char × Option (List Char) :=
  let isMark (c : Char) : Bool := c == 'e' || c == 'E'
  match word.dropWhile (!isMark ·) with
  | [] => (word, none)
  | _ :: rest => (word.takeWhile (!isMark ·), some rest)

def splitPoint (word : List Char) : List Char × Option (List Char) :=
  match word.dropWhile (· != '.') with
  | [] => (word, none)
  | _ :: rest => (word.takeWhile (· != '.'), some rest)

def digits? (cs : List Char) : Option (List Char) := if isNumeral cs then some cs else none

def exponent? : Option (List Char) → Option Int
  | none => some 0
  | some word => do
    let (negative, word) := unsigned word
    let n : Int := decimalValue (← digits? word)
    return if negative then -n else n

def partDigits? : Option (List Char) → Option (List Char)
  | none => some []
  | some word => digits? word

def fraction? (word : List Char) : Option Document := do
  let (_, value) := unsigned word
  if value = "inf".toList ∨ value = "nan".toList then return .null
  let (number, power) := splitExponent (withoutUnderscores value)
  let (whole, part) := splitPoint number
  if (power.isNone && part.isNone) || hasSpareZero value whole || !isSeparated isDigit word then none
  else
    let whole ← digits? whole
    let part ← partDigits? part
    let power ← exponent? power
    return if exceeds (whole ++ part) (power - part.length) then .unreadable else .fraction

def number? (word : List Char) : Option Document :=
  decimal? word <|> radixNumber? word <|> fraction? word

def fixed? (count : Nat) (cs : List Char) : Option (Nat × List Char) :=
  let digits := cs.take count
  if digits.length = count ∧ digits.all isDigit then some (decimalValue digits, cs.drop count)
  else none

def mark? (mark : Char) : List Char → Option (List Char)
  | c :: cs => if c = mark then some cs else none
  | [] => none

def isLeap (year : Nat) : Bool := (year % 4 == 0 && year % 100 != 0) || year % 400 == 0

def daysIn (year month : Nat) : Nat :=
  if month = 2 then if isLeap year then 29 else 28
  else if month = 4 ∨ month = 6 ∨ month = 9 ∨ month = 11 then 30
  else 31

def date? (cs : List Char) : Option (List Char) := do
  let (year, cs) ← fixed? 4 cs
  let (month, cs) ← fixed? 2 (← mark? '-' cs)
  let (day, cs) ← fixed? 2 (← mark? '-' cs)
  if 1 ≤ month ∧ month ≤ 12 ∧ 1 ≤ day ∧ day ≤ daysIn year month then some cs else none

def secondsPart? : List Char → Option (List Char)
  | '.' :: cs => if (cs.takeWhile isDigit).isEmpty then none else some (cs.dropWhile isDigit)
  | cs => some cs

def seconds? : List Char → Option (List Char)
  | ':' :: cs => do
    let (second, cs) ← fixed? 2 cs
    if second ≤ 60 then secondsPart? cs else none
  | cs => some cs

def clock? (cs : List Char) : Option (List Char) := do
  let (hour, cs) ← fixed? 2 cs
  let (minute, cs) ← fixed? 2 (← mark? ':' cs)
  if hour ≤ 23 ∧ minute ≤ 59 then some cs else none

def time? (cs : List Char) : Option (List Char) := (clock? cs).bind seconds?

def distance? : List Char → Option (List Char)
  | [] => some []
  | c :: cs =>
    if c = 'Z' ∨ c = 'z' then some cs
    else if c = '+' ∨ c = '-' then clock? cs
    else none

def dated? (cs : List Char) : Option (List Char) := do
  match ← date? cs with
  | [] => some []
  | c :: cs => if c = 'T' ∨ c = 't' ∨ c = ' ' then distance? (← time? cs) else none

def moment? (word : List Char) : Option Document :=
  if dated? word = some [] ∨ time? word = some [] then
    some (.record [("moment", .text (.ofList word))])
  else none

end NodeStorage.Toml
