import NodeStorage.Keyed
import NodeStorage.Run.Step
import NodeStorage.Text.Search

/-! Properties of a block device, as the identification tool exports them: a line for each, key and
value with an equals sign between. A line with no equals sign or with several, or without a key,
says nothing; the last line of a key holds. -/

namespace NodeStorage

open Text

/-- Keys with their values, in order of first mention. -/
abbrev Properties := List (String × String)

namespace Properties

def get? (properties : Properties) (key : String) : Option String := properties.lookup key

def size (properties : Properties) : Nat := properties.length

def uuid? (properties : Properties) : Option String := properties.get? "UUID"

def type? (properties : Properties) : Option String := properties.get? "TYPE"

def partUuid? (properties : Properties) : Option String := properties.get? "PARTUUID"

def ofLine? (line : String) : Option (String × String) :=
  match (trimChars line.toList).splitOn '=' with
  | [key, value] => if key.isEmpty then none else some (.ofList key, .ofList value)
  | _ => none

def ofPairs (pairs : List (String × String)) : Properties :=
  Keyed.ofPairs pairs

def ofText (s : String) : Properties := ofPairs ((lines s).filterMap ofLine?)

def command (device : String) : Command :=
  (((Draft.start .blkid).addFlags ["-o", "export"]).operand device).build

def read (device : String) : Step Properties :=
  return ofText (← Step.run (command device)).stdout

end Properties

/-- Reads the identifier of the filesystem on a device; a device that reports none is a failure. -/
def lookUpUuid (device : String) : Step String := do
  match ← Step.attempt (Properties.read device) with
  | .error failure => Step.fail (.propertyLookupFailed device failure)
  | .ok properties =>
    match properties.uuid? with
    | some uuid => return uuid
    | none => Step.fail (.propertyLookupFailed device (.missingProperty "UUID"))

end NodeStorage
