/-! Numbers as text. A decimal numeral is one or more ASCII digits, which one plus sign may precede, with
a value up to a given greatest one; leading zeros are allowed, blanks and separators are not.
Hexadecimal digits come in either case.

A globally unique identifier is thirty-two hexadecimal digits, plain or in groups of 8, 4, 4, 4 and 12
between hyphens; the grouped form may stand in braces or behind `urn:uuid:`. The library that reads
identifiers is assumed to take that mark in either case. -/

namespace NodeStorage.Text

def isDigit (c : Char) : Bool := decide ('0' ≤ c) && decide (c ≤ '9')

def digitValue (c : Char) : Nat := c.toNat - '0'.toNat

def decimalValue (cs : List Char) : Nat := cs.foldl (fun n c => 10 * n + digitValue c) 0

def numeralDigits : List Char → List Char
  | '+' :: rest => rest
  | cs => cs

def numeral? (greatest : Nat) (s : String) : Option Nat :=
  let digits := numeralDigits s.toList
  if digits.isEmpty || !digits.all isDigit then none
  else if decimalValue digits ≤ greatest then some (decimalValue digits) else none

def decimal (n : Nat) : String := .ofList (Nat.toDigits 10 n)

def signedDecimal (n : Int) : String :=
  match n with
  | .ofNat m => decimal m
  | .negSucc m => "-" ++ decimal (m + 1)

def hexValue? (c : Char) : Option Nat :=
  if isDigit c then some (digitValue c)
  else if 'a' ≤ c ∧ c ≤ 'f' then some (c.toNat - 'a'.toNat + 10)
  else if 'A' ≤ c ∧ c ≤ 'F' then some (c.toNat - 'A'.toNat + 10)
  else none

def isHexDigit (c : Char) : Bool := (hexValue? c).isSome

/-- The number that exactly `count` hexadecimal digits write, after digits of value `n`. -/
def hexNumber? : Nat → Nat → List Char → Option (Nat × List Char)
  | 0, n, cs => some (n, cs)
  | _ + 1, _, [] => none
  | count + 1, n, c :: cs => (hexValue? c).bind fun d => hexNumber? count (16 * n + d) cs

theorem hexNumber?_length {count n m : Nat} {cs rest : List Char}
    (h : hexNumber? count n cs = some (m, rest)) : rest.length + count = cs.length := by
  induction count generalizing n cs with
  | zero => simp_all [hexNumber?]
  | succ count ih =>
    cases cs with
    | nil => simp [hexNumber?] at h
    | cons c cs =>
      simp only [hexNumber?] at h
      obtain ⟨d, _, hd⟩ := Option.bind_eq_some_iff.1 h
      have := ih hd
      simp only [List.length_cons]
      omega

def isPlainGuid (cs : List Char) : Bool := cs.length == 32 && cs.all isHexDigit

def isGroupedGuid (cs : List Char) : Bool :=
  let groups := cs.splitOn '-'
  groups.map List.length == [8, 4, 4, 4, 12] && groups.all (·.all isHexDigit)

def isBracedGuid : List Char → Bool
  | '\x7b' :: cs => cs.getLast? == some '\x7d' && isGroupedGuid cs.dropLast
  | _ => false

def guidMark : List Char := "urn:uuid:".toList

def isMarkedGuid (cs : List Char) : Bool :=
  (cs.take guidMark.length).map Char.toLower == guidMark &&
    isGroupedGuid (cs.drop guidMark.length)

def isGuid (s : String) : Bool :=
  isPlainGuid s.toList || isGroupedGuid s.toList || isBracedGuid s.toList ||
    isMarkedGuid s.toList

end NodeStorage.Text
