import NodeStorage.Text.Search

/-! The programs that a machine is provisioned with, each known by the name of its binary, and their
invocations. A draft keeps the operands, which name devices, apart from the flags; the command has all
flags first and then all operands, each in the order in which they were added. -/

namespace NodeStorage

inductive Tool where
  | blkid
  | wipefs
  | sgdisk
  | mdadm
  | vgs
  | lvs
  | vgcreate
  | lvcreate
  | mkfsExt3
  | mkfsExt4
  | mkfsVfat
  | mkswap
  | nvme
  | dd
  deriving DecidableEq, Repr, Inhabited

namespace Tool

def all : List Tool :=
  [blkid, wipefs, sgdisk, mdadm, vgs, lvs, vgcreate, lvcreate, mkfsExt3, mkfsExt4, mkfsVfat, mkswap,
    nvme, dd]

def binary : Tool → String
  | blkid => "blkid"
  | wipefs => "wipefs"
  | sgdisk => "sgdisk"
  | mdadm => "mdadm"
  | vgs => "vgs"
  | lvs => "lvs"
  | vgcreate => "vgcreate"
  | lvcreate => "lvcreate"
  | mkfsExt3 => "mkfs.ext3"
  | mkfsExt4 => "mkfs.ext4"
  | mkfsVfat => "mkfs.vfat"
  | mkswap => "mkswap"
  | nvme => "nvme"
  | dd => "dd"

def ofBinary? (name : String) : Option Tool := all.find? (·.binary == name)

theorem ofBinary?_binary (tool : Tool) : ofBinary? tool.binary = some tool := by
  cases tool <;> decide

end Tool

open Text

structure Command where
  tool : Tool
  args : List String
  deriving DecidableEq, Repr

def Command.line (command : Command) : String :=
  if command.args.isEmpty then command.tool.binary
  else joined " " (command.tool.binary :: command.args)

structure Draft where
  tool : Tool
  flags : List String := []
  operands : List String := []
  deriving DecidableEq, Repr

namespace Draft

def start (tool : Tool) : Draft := ⟨tool, [], []⟩

def flag (d : Draft) (s : String) : Draft := { d with flags := d.flags ++ [s] }

def addFlags (d : Draft) (ss : List String) : Draft := { d with flags := d.flags ++ ss }

def flagIf (d : Draft) (condition : Bool) (s : String) : Draft :=
  if condition then d.flag s else d

theorem flagIf_eq (d : Draft) (condition : Bool) (s : String) :
    d.flagIf condition s = d.addFlags (if condition then [s] else []) := by
  cases condition <;> simp [flagIf, flag, addFlags]

def operand (d : Draft) (s : String) : Draft := { d with operands := d.operands ++ [s] }

def addOperands (d : Draft) (ss : List String) : Draft := { d with operands := d.operands ++ ss }

def build (d : Draft) : Command := ⟨d.tool, d.flags ++ d.operands⟩

inductive Addition where
  | flag (s : String)
  | flags (ss : List String)
  | flagIf (condition : Bool) (s : String)
  | operand (s : String)
  | operands (ss : List String)
  deriving DecidableEq, Repr

def add (d : Draft) : Addition → Draft
  | .flag s => d.flag s
  | .flags ss => d.addFlags ss
  | .flagIf condition s => d.flagIf condition s
  | .operand s => d.operand s
  | .operands ss => d.addOperands ss

def ofAdditions (tool : Tool) (additions : List Addition) : Draft :=
  additions.foldl add (start tool)

end Draft

end NodeStorage
