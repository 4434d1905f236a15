import NodeStorage.Document
import NodeStorage.Text.Numeral

/-! Strings in JSON text, and documents written as such text. Writing escapes the quote, the backslash and
the characters below the space, five of them by a letter and the others by four hexadecimal digits; all
else stands as it is. Reading also takes the escaped slash and any character given by four hexadecimal
digits, two halves of a pair for a character beyond them; a half without its other is refused.

A document is written over several lines: every item and every field on a line of its own, two more
spaces for each list or record around it, and an empty list or record closed at once. -/

namespace NodeStorage.Json

open Text

def isHighHalf (n : Nat) : Bool := decide (0xD800 ≤ n) && decide (n < 0xDC00)

def isLowHalf (n : Nat) : Bool := decide (0xDC00 ≤ n) && decide (n < 0xE000)

def lowHalf? (high : Nat) : List Char → Option (Char × List Char)
  | '\\' :: 'u' :: cs => do
    let (low, rest) ← hexNumber? 4 0 cs
    if isLowHalf low then
      some (.ofNat (0x10000 + 0x400 * (high - 0xD800) + (low - 0xDC00)), rest)
    else none
  | _ => none

def codeUnit? (cs : List Char) : Option (Char × List Char) := do
  let (n, rest) ← hexNumber? 4 0 cs
  if isHighHalf n then lowHalf? n rest
  else if isLowHalf n then none
  else some (.ofNat n, rest)

def escaped? : List Char → Option (Char × List Char)
  | [] => none
  | c :: cs =>
    if c = 'u' then codeUnit? cs
    else if c = '"' ∨ c = '\\' ∨ c = '/' then some (c, cs)
    else if c = 'b' then some ('\x08', cs)
    else if c = 'f' then some ('\x0c', cs)
    else if c = 'n' then some ('\n', cs)
    else if c = 'r' then some ('\r', cs)
    else if c = 't' then some ('\t', cs)
    else none

theorem lowHalf?_length {high : Nat} {cs rest : List Char} {c : Char}
    (h : lowHalf? high cs = some (c, rest)) : rest.length < cs.length := by
  unfold lowHalf? at h
  split at h
  · next tail =>
    obtain ⟨⟨low, after⟩, hl, hr⟩ := Option.bind_eq_some_iff.1 h
    have := hexNumber?_length hl
    simp only at hr
    split at hr
    · simp only [Option.some.injEq, Prod.mk.injEq] at hr
      obtain ⟨-, rfl⟩ := hr
      simp only [List.length_cons]
      omega
    · simp at hr
  · simp at h

theorem codeUnit?_length {cs rest : List Char} {c : Char}
    (h : codeUnit? cs = some (c, rest)) : rest.length < cs.length := by
  obtain ⟨⟨n, after⟩, hn, hr⟩ := Option.bind_eq_some_iff.1 h
  have := hexNumber?_length hn
  simp only at hr
  split at hr
  · have := lowHalf?_length hr
    omega
  · split at hr
    · simp at hr
    · simp only [Option.some.injEq, Prod.mk.injEq] at hr
      obtain ⟨-, rfl⟩ := hr
      omega

theorem escaped?_length {cs rest : List Char} {c : Char}
    (h : escaped? cs = some (c, rest)) : rest.length < cs.length := by
  cases cs with
  | nil => simp [escaped?] at h
  | cons d cs =>
    simp only [escaped?] at h
    split at h
    · have := codeUnit?_length h
      simp only [List.length_cons]
      omega
    · repeat' split at h
      all_goals
        first
          | (simp only [Option.some.injEq, Prod.mk.injEq] at h
             obtain ⟨-, rfl⟩ := h
             simp)
          | simp at h

def textBody? (cs : List Char) : Option (List Char × List Char) :=
  match cs with
  | [] => none
  | c :: rest =>
    if c = '"' then some ([], rest)
    else if c = '\\' then
      match h : escaped? rest with
      | none => none
      | some (d, after) =>
        have := escaped?_length h
        (textBody? after).map fun (body, tail) => (d :: body, tail)
    else if c.toNat < 0x20 then none
    else (textBody? rest).map fun (body, tail) => (c :: body, tail)
termination_by cs.length
decreasing_by all_goals simp only [List.length_cons]; omega

def hexDigit (n : Nat) : Char := Nat.digitChar n

def writtenChar (c : Char) : List Char :=
  if c = '"' then ['\\', '"']
  else if c = '\\' then ['\\', '\\']
  else if c = '\x08' then ['\\', 'b']
  else if c = '\x0c' then ['\\', 'f']
  else if c = '\n' then ['\\', 'n']
  else if c = '\r' then ['\\', 'r']
  else if c = '\t' then ['\\', 't']
  else if c.toNat < 0x20 then
    ['\\', 'u', '0', '0', hexDigit (c.toNat / 16), hexDigit (c.toNat % 16)]
  else [c]

def writtenText (s : String) : List Char := '"' :: s.toList.flatMap writtenChar ++ ['"']

def indent (depth : Nat) : List Char := List.replicate (2 * depth) ' '

def newLine (depth : Nat) : List Char := '\n' :: indent depth

mutual

/-- The text of a value that stands `depth` lists and records deep. -/
def printed (depth : Nat) : Document → List Char
  | .null => "null".toList
  | .bool true => "true".toList
  | .bool false => "false".toList
  | .integer n => (signedDecimal n).toList
  | .fraction | .unreadable => "0.0".toList
  | .text s => writtenText s
  | .list [] => "[]".toList
  | .list (v :: vs) =>
    '[' :: newLine (depth + 1) ++ printed (depth + 1) v ++ laterItems (depth + 1) vs ++
      newLine depth ++ [']']
  | .record [] => ['\x7b', '\x7d']
  | .record ((key, v) :: fs) =>
    '\x7b' :: newLine (depth + 1) ++ writtenText key ++ ':' :: ' ' :: printed (depth + 1) v ++
      laterFields (depth + 1) fs ++ newLine depth ++ ['\x7d']

def laterItems (depth : Nat) : List Document → List Char
  | [] => []
  | v :: vs => ',' :: newLine depth ++ printed depth v ++ laterItems depth vs

def laterFields (depth : Nat) : List (String × Document) → List Char
  | [] => []
  | (key, v) :: fs =>
    ',' :: newLine depth ++ writtenText key ++ ':' :: ' ' :: printed depth v ++
      laterFields depth fs

end

def pretty (v : Document) : String := .ofList (printed 0 v)

end NodeStorage.Json
