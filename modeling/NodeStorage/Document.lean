import NodeStorage.Keyed

/-! Values of a configuration language: what a JSON or TOML text denotes, before any of it is read as a
plan. Numbers that are no integer are told apart from integers and keep no value, since no plan holds
one; a number is unreadable if a text may hold it but it has no value. A record keeps its fields in
order of first appearance.

A document is read as a record of declared fields if it is a record, in which a field may go by several
names and unknown fields do not matter, or the list of the field values in order of declaration, whose
last ones may be missing. Each declared field becomes a slot, filled or not. -/

namespace NodeStorage

inductive Document where
  | null
  | bool (value : Bool)
  | integer (value : Int)
  | fraction
  | unreadable
  | text (value : String)
  | list (items : List Document)
  | record (fields : List (String × Document))
  deriving Inhabited, Repr

namespace Document

def ofFields (fields : List (String × Document)) : Document :=
  .record (Keyed.ofPairs fields)

def field? (key : String) : Document → Option Document
  | .record fields => fields.lookup key
  | _ => none

def items? : Document → Option (List Document)
  | .list items => some items
  | _ => none

def text? : Document → Option String
  | .text value => some value
  | _ => none

def bool? : Document → Option Bool
  | .bool value => some value
  | _ => none

def integer? (least greatest : Int) : Document → Option Int
  | .integer value => if least ≤ value ∧ value ≤ greatest then some value else none
  | _ => none

def natural? (greatest : Nat) (value : Document) : Option Nat :=
  (value.integer? 0 greatest).map Int.toNat

/-- Absent for `null`, and read by `read` otherwise. -/
def optional? (read : Document → Option α) : Document → Option (Option α)
  | .null => some none
  | value => (read value).map some

def listOf? (read : Document → Option α) (value : Document) : Option (List α) :=
  value.items?.bind (·.mapM read)

def texts? (value : Document) : Option (List String) := value.listOf? text?

mutual

/-- Whether every number of the value is readable and every integer lies within bounds. -/
def numbersWithin (least greatest : Int) : Document → Bool
  | .integer n => decide (least ≤ n) && decide (n ≤ greatest)
  | .unreadable => false
  | .list items => itemsWithin least greatest items
  | .record fields => fieldsWithin least greatest fields
  | _ => true

def itemsWithin (least greatest : Int) : List Document → Bool
  | [] => true
  | v :: vs => numbersWithin least greatest v && itemsWithin least greatest vs

def fieldsWithin (least greatest : Int) : List (String × Document) → Bool
  | [] => true
  | (_, v) :: vs => numbersWithin least greatest v && fieldsWithin least greatest vs

end

end Document

end NodeStorage

namespace NodeStorage.Document

/-- The value under one of the names, if there is any; values under two of them are refused. -/
def named? (fields : List (String × Document)) (names : List String) : Option (Option Document) :=
  match names.filterMap fun name => fields.lookup name with
  | [] => some none
  | [v] => some (some v)
  | _ => none

theorem named?_singleton (fields : List (String × Document)) (name : String) :
    named? fields [name] = some (fields.lookup name) := by
  cases h : fields.lookup name <;> simp [named?, h]

def listed (count : Nat) (items : List Document) : List (Option Document) :=
  items.map some ++ List.replicate (count - items.length) none

def slots? (declared : List (List String)) : Document → Option (List (Option Document))
  | .record fields => declared.mapM (named? fields)
  | .list items =>
    if items.length ≤ declared.length then some (listed declared.length items) else none
  | _ => none

/-- Whether a value that is not wanted can be passed over: its integers have 128 bits. -/
def isSkippable (v : Document) : Bool := v.numbersWithin (-Nat.pow 2 127) (Nat.pow 2 128 - 1)

/-- Slots of a record whose unknown fields must be skippable, and whose list form may be longer than
the declaration; the rest of the list is not looked at. -/
def leadingSlots? (declared : List (List String)) : Document → Option (List (Option Document))
  | .list items => some (listed declared.length (items.take declared.length))
  | .record fields =>
    if (fields.filter fun (name, _) => name ∉ declared.flatten).all fun (_, v) => v.isSkippable then
      declared.mapM (named? fields)
    else none
  | _ => none

def required (read : Document → Option α) (slot : Option Document) : Option α := slot.bind read

def orElse (absent : α) (read : Document → Option α) : Option Document → Option α
  | none => some absent
  | some v => read v

end NodeStorage.Document
