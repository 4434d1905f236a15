import NodeStorage.Proofs.Text.Division
import NodeStorage.Proofs.Wipe.OctalEscape

/-! Reading a mount table. Fields stand between spaces and tabs; blank lines and those that begin with
a number sign are left out. In a field, a backslash and three octal digits stand for a byte. -/

namespace NodeStorage

namespace TableReader

def newline : UInt8 := 0x0A

def space : UInt8 := 0x20

def numberSign : UInt8 := 0x23

def isBlank (b : UInt8) : Bool := b == space || b == 0x09

def isSolid (b : UInt8) : Bool := !isBlank b && b != newline

def fields (line : List UInt8) : List (List UInt8) := (line.splitOnP isBlank).filter (!·.isEmpty)

def row? (line : List UInt8) : Option (List (List UInt8)) :=
  match fields line with
  | [] => none
  | first :: rest =>
    if first.head? = some numberSign then none
    else some ((first :: rest).map MountSources.unescapeBytes)

def rows (bytes : List UInt8) : List (List (List UInt8)) := (bytes.splitOn newline).filterMap row?

/-- A field that is read as it is written. -/
structure Plain (field : List UInt8) : Prop where
  nonempty : field ≠ []
  solid : ∀ b ∈ field, isSolid b = true
  unescaped : MountSources.unescapeBytes field = field

theorem isBlank_of_isSolid {b : UInt8} (h : isSolid b = true) : isBlank b = false := by
  unfold isSolid at h
  simpa using (Bool.and_eq_true_iff.1 h).1

theorem ne_newline_of_isSolid {b : UInt8} (h : isSolid b = true) : b ≠ newline := by
  unfold isSolid at h
  simpa using (Bool.and_eq_true_iff.1 h).2

theorem rows_append_newline (a b : List UInt8) : rows (a ++ newline :: b) = rows a ++ rows b := by
  have lines : (a ++ newline :: b).splitOn newline = a.splitOn newline ++ b.splitOn newline := by
    simp only [List.splitOn_eq_splitOnP]
    exact List.splitOnP_append_cons a b (beq_self_eq_true newline)
  rw [rows, lines, List.filterMap_append]
  rfl

theorem rows_of_no_newline {line : List UInt8} (h : ∀ b ∈ line, b ≠ newline) :
    rows line = (row? line).toList := by
  have whole : line.splitOn newline = [line] := by
    rw [List.splitOn_eq_splitOnP]
    exact List.splitOnP_eq_singleton fun b mem => beq_false_of_ne (h b mem)
  rw [rows, whole]
  cases read : row? line <;> simp [read]

theorem rows_ne_nil {b : UInt8} (solid : isSolid b = true) (field : b ≠ numberSign)
    (rest : List UInt8) : rows (b :: rest) ≠ [] := by
  have other : (b == newline) = false := beq_false_of_ne (ne_newline_of_isSolid solid)
  obtain ⟨line, lines, parts⟩ := List.exists_cons_of_ne_nil (List.splitOnP_ne_nil (· == newline) rest)
  obtain ⟨word, words, pieces⟩ := List.exists_cons_of_ne_nil (List.splitOnP_ne_nil isBlank line)
  have first : row? (b :: line) ≠ none := by
    rw [row?, fields, List.splitOnP_cons_eq_if_modifyHead, isBlank_of_isSolid solid, pieces]
    simp [field]
  obtain ⟨row, read⟩ := Option.ne_none_iff_exists'.1 first
  rw [rows, List.splitOn_eq_splitOnP, List.splitOnP_cons_eq_if_modifyHead, other, parts]
  simp [read]

section Length

variable {α : Type}

theorem flatten_splitOnP (p : α → Bool) (l : List α) :
    (l.splitOnP p).flatten = l.filter fun a => !p a := by
  induction l with
  | nil => simp [List.splitOnP_nil]
  | cons a rest ih =>
    obtain ⟨piece, pieces, parts⟩ := List.exists_cons_of_ne_nil (List.splitOnP_ne_nil p rest)
    rw [parts] at ih
    rw [List.splitOnP_cons_eq_if_modifyHead, parts]
    cases separates : p a with
    | true => simpa [separates] using ih
    | false => simpa [separates] using ih

theorem length_flatten_map_le {f : List α → List α} (h : ∀ l, (f l).length ≤ l.length)
    (ls : List (List α)) : (ls.map f).flatten.length ≤ ls.flatten.length := by
  induction ls with
  | nil => exact Nat.le_refl _
  | cons l rest ih =>
    rw [List.map_cons, List.flatten_cons, List.flatten_cons, List.length_append, List.length_append]
    exact Nat.add_le_add (h l) ih

end Length

theorem length_unescapeBytes_le (bytes : List UInt8) :
    (MountSources.unescapeBytes bytes).length ≤ bytes.length :=
  (MountSources.unescapes_unescapeBytes bytes).length_le

theorem flatten_fields (line : List UInt8) :
    (fields line).flatten = line.filter fun b => !isBlank b := by
  rw [fields, List.flatten_filter_not_isEmpty, flatten_splitOnP]

theorem row_eq {line : List UInt8} {row : List (List UInt8)} (h : row? line = some row) :
    row = (fields line).map MountSources.unescapeBytes := by
  unfold row? at h
  split at h
  · cases h
  · next first rest read =>
    split at h
    · cases h
    · cases h
      rw [read]

theorem length_row_le {line : List UInt8} {row : List (List UInt8)} (h : row? line = some row) :
    row.flatten.length ≤ (line.filter fun b => !isBlank b).length := by
  rw [← flatten_fields, row_eq h]
  exact length_flatten_map_le length_unescapeBytes_le _

theorem length_rows_le (bytes : List UInt8) :
    (rows bytes).flatten.flatten.length ≤ (bytes.filter isSolid).length := by
  have lines (ls : List (List UInt8)) : (ls.filterMap row?).flatten.flatten.length ≤
      (ls.flatten.filter fun b => !isBlank b).length := by
    induction ls with
    | nil => exact Nat.le_refl _
    | cons line rest ih =>
      rw [List.flatten_cons, List.filter_append, List.length_append]
      cases read : row? line with
      | none =>
        rw [List.filterMap_cons_none read]
        omega
      | some row =>
        rw [List.filterMap_cons_some read, List.flatten_cons, List.flatten_append, List.length_append]
        have := length_row_le read
        omega
  have all := lines (bytes.splitOn newline)
  rw [List.splitOn_eq_splitOnP, flatten_splitOnP, List.filter_filter] at all
  exact all

theorem fields_intercalate {fs : List (List UInt8)} (h : ∀ f ∈ fs, ∀ b ∈ f, isBlank b = false) :
    fields ([space].intercalate fs) = fs.filter (!·.isEmpty) := by
  rw [fields]
  induction fs with
  | nil => simp [List.splitOnP_nil]
  | cons f rest ih =>
    obtain ⟨own, others⟩ := List.forall_mem_cons.1 h
    cases rest with
    | nil => rw [List.intercalate_singleton, List.splitOnP_eq_singleton own]
    | cons g rest =>
      rw [List.intercalate_cons_cons, List.append_assoc, List.singleton_append,
        List.splitOnP_append_cons_of_forall_mem own space rfl, List.filter_cons, ih others,
        List.filter_cons (x := f)]

theorem filter_isSolid_intercalate (fs : List (List UInt8)) :
    ([space].intercalate fs).filter isSolid = fs.flatten.filter isSolid := by
  induction fs with
  | nil => rfl
  | cons f rest ih =>
    cases rest with
    | nil => simp
    | cons g rest =>
      rw [List.intercalate_cons_cons, List.filter_append, List.filter_append, ih, List.flatten_cons,
        List.filter_append]
      simp [isSolid, isBlank, space]

theorem ne_newline_of_mem_intercalate {fs : List (List UInt8)}
    (h : ∀ f ∈ fs, ∀ b ∈ f, b ≠ newline) : ∀ b ∈ [space].intercalate fs, b ≠ newline := by
  intro b mem
  rcases Text.mem_of_mem_intercalate mem with separator | ⟨f, inside, here⟩
  · rw [List.mem_singleton.1 separator]
    decide
  · exact h f inside b here

theorem rows_intercalate {fs : List (List UInt8)} (solid : ∀ f ∈ fs, ∀ b ∈ f, isSolid b = true) :
    rows ([space].intercalate fs) = (row? ([space].intercalate fs)).toList ∧
      fields ([space].intercalate fs) = fs.filter (!·.isEmpty) := by
  constructor
  · refine rows_of_no_newline (ne_newline_of_mem_intercalate ?_)
    exact fun f mem b inside => ne_newline_of_isSolid (solid f mem b inside)
  · exact fields_intercalate fun f mem b inside => isBlank_of_isSolid (solid f mem b inside)

theorem solid_of_rows_eq {fs : List (List UInt8)} (h : rows ([space].intercalate fs) = [fs]) :
    ∀ f ∈ fs, ∀ b ∈ f, isSolid b = true := by
  have short := length_rows_le ([space].intercalate fs)
  rw [h, filter_isSolid_intercalate] at short
  have whole : (fs.flatten.filter isSolid).length = fs.flatten.length := by
    refine Nat.le_antisymm (List.length_filter_le _ _) ?_
    simpa using short
  have solid := List.length_filter_eq_length_iff.1 whole
  exact fun f mem b inside => solid b (List.mem_flatten.2 ⟨f, mem, inside⟩)

theorem plain_of_rows_eq {fs : List (List UInt8)} (h : rows ([space].intercalate fs) = [fs]) :
    ∀ f ∈ fs, Plain f := by
  have solid := solid_of_rows_eq h
  obtain ⟨single, all⟩ := rows_intercalate solid
  rw [single] at h
  have read : row? ([space].intercalate fs) = some fs := Option.toList_eq_singleton_iff.1 h
  have same : fs = (fs.filter (!·.isEmpty)).map MountSources.unescapeBytes := by
    rw [← all]
    exact row_eq read
  have count : (fs.filter (!·.isEmpty)).length = fs.length := by
    rw [← List.length_map (f := MountSources.unescapeBytes), ← same]
  have nonempty := List.length_filter_eq_length_iff.1 count
  rw [List.filter_eq_self.2 nonempty] at same
  have unescaped : ∀ f ∈ fs, MountSources.unescapeBytes f = id f :=
    List.map_inj_left.1 (same.symm.trans (List.map_id fs).symm)
  refine fun f mem => ⟨?_, solid f mem, unescaped f mem⟩
  simpa using nonempty f mem

/-- Fields are read as they are written if and only if each of them is plain. -/
theorem rows_intercalate_iff {first : List UInt8} {rest : List (List UInt8)}
    (field : first.head? ≠ some numberSign) :
    rows ([space].intercalate (first :: rest)) = [first :: rest] ↔ ∀ f ∈ first :: rest, Plain f := by
  refine ⟨plain_of_rows_eq, fun plain => ?_⟩
  obtain ⟨single, all⟩ := rows_intercalate fun f mem => (plain f mem).solid
  have kept : (first :: rest).filter (!·.isEmpty) = first :: rest := by
    refine List.filter_eq_self.2 fun f mem => ?_
    simp [(plain f mem).nonempty]
  have unescaped : (first :: rest).map MountSources.unescapeBytes = first :: rest := by
    rw [List.map_inj_left.2 fun f mem => (plain f mem).unescaped]
    exact List.map_id _
  rw [kept] at all
  rw [single, row?, all]
  simp only [if_neg field, unescaped]
  rfl

end TableReader

end NodeStorage
