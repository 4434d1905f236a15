import Mathlib.Data.List.Basic
import NodeStorage.Target.TableFile

/-! What is written to a file is read back from it. Writing replaces one entry that is no directory, so
every way through directories leads on to where it led before. -/

namespace NodeStorage

open Text

theorem fromUTF8?_utf8 (s : String) : String.fromUTF8? (utf8 s.toList).toByteArray = some s := by
  have bytes : (utf8 s.toList).toByteArray = s.toByteArray := String.utf8Encode_toList
  rw [bytes]
  exact dif_pos s.isValidUTF8

theorem exists_of_bind_eq_ok {α β : Type} {x : Except IoFault α} {f : α → Except IoFault β} {b : β}
    (h : x >>= f = .ok b) : ∃ a, x = .ok a ∧ f a = .ok b := by
  cases x with
  | error fault => cases h
  | ok a => exact ⟨a, rfl, h⟩

namespace FileTree

variable {t t' : FileTree} {place next target : Place} {entry : Entry} {p : Path}

theorem enter_put {name : String} (free : t.lookup? target ≠ some .directory)
    (h : t.enter place name = .ok next) : (t.put target entry).enter place name = .ok next := by
  have there := lookup?_of_enter h
  have other : place ≠ target := by
    rintro rfl
    exact free there
  rw [enter, lookup?_put_ne t target place entry other]
  exact h

theorem foldlM_enter_put {names : List String} (free : t.lookup? target ≠ some .directory)
    (h : names.foldlM t.enter place = .ok next) :
    names.foldlM (t.put target entry).enter place = .ok next := by
  induction names generalizing place with
  | nil => exact h
  | cons name rest ih =>
    rw [List.foldlM_cons] at h ⊢
    cases entered : t.enter place name with
    | error fault => rw [entered] at h; cases h
    | ok inner =>
      rw [entered] at h
      rw [enter_put free entered]
      exact ih h

theorem eq_of_enter_dot (h : t.enter place "." = .ok next) : next = place := by
  have there := lookup?_of_enter h
  simp only [enter, there, if_pos, Except.ok.injEq] at h
  exact h.symm

theorem foldlM_of_findParent (h : t.findParent p = .ok (some place)) :
    p.names.foldlM t.enter (t.start p) = .ok place := by
  obtain ⟨-, -, h⟩ := exists_of_bind_eq_ok h
  cases named : p.names.getLast? with
  | none => rw [named] at h; cases h
  | some last =>
    rw [named] at h
    obtain ⟨directory, led, entered⟩ := exists_of_bind_eq_ok h
    obtain ⟨next, entered, same⟩ := exists_of_bind_eq_ok entered
    obtain ⟨inner, led, dot⟩ := exists_of_bind_eq_ok led
    obtain rfl := eq_of_enter_dot dot
    have there : next = place := by
      split at same
      · cases same
      · exact Option.some.inj (Except.ok.inj same)
    rw [← List.dropLast_append_getLast? last named, List.foldlM_append, led, ← there]
    change [last].foldlM t.enter directory = .ok next
    rw [List.foldlM_cons, entered]
    rfl

theorem exists_of_write {content : List UInt8} (h : t.write p content = .ok t') :
    ∃ place, checkPath p = .ok () ∧ p.endsInSlash = false ∧
      p.names.foldlM t.enter (t.start p) = .ok place ∧ t.lookup? place ≠ some .directory ∧
      t' = t.put place (.file content) := by
  obtain ⟨⟨⟩, checked, h⟩ := exists_of_bind_eq_ok h
  obtain ⟨_, -, h⟩ := exists_of_bind_eq_ok h
  by_cases slash : p.endsInSlash = true
  · rw [if_pos slash] at h
    cases h
  rw [if_neg slash] at h
  obtain ⟨found, parent, h⟩ := exists_of_bind_eq_ok h
  cases found with
  | none => cases h
  | some place =>
    have whole := foldlM_of_findParent parent
    simp only at h
    split at h
    · cases h
    · next free => exact ⟨place, checked, Bool.eq_false_iff.2 slash, whole, free, (Except.ok.inj h).symm⟩

theorem readBytes_of_write {content : List UInt8} (h : t.write p content = .ok t') :
    t'.readBytes p = .ok content := by
  obtain ⟨place, checked, slash, led, free, rfl⟩ := exists_of_write h
  have nonempty : place ≠ [] := by
    rintro rfl
    exact free rfl
  have found : (t.put place (.file content)).find p = .ok (place, .file content) := by
    have led' : p.names.foldlM (t.put place (.file content)).enter
        ((t.put place (.file content)).start p) = .ok place := foldlM_enter_put free led
    have there := t.lookup?_put place (.file content) nonempty
    simp [find, checked, led', there, slash, bind, Except.bind]
  rw [readBytes, found]

theorem readText_of_readBytes {text : String} (h : t.readBytes p = .ok (utf8 text.toList)) :
    t.readText p = .ok text := by
  simp [readText, h, Except.bind, fromUTF8?_utf8]

end FileTree

section Files

variable {m : Machine} {w w' : World} {p : Path} {content : String}

theorem Step.exists_of_bind_eq_ok {α β : Type} {x : Step α} {f : α → Step β} {b : β}
    (h : (x >>= f) m w = (.ok b, w')) :
    ∃ a between, x m w = (.ok a, between) ∧ f a m between = (.ok b, w') := by
  rw [Step.bind_apply] at h
  rcases done : x m w with ⟨failure | a, between⟩
  · rw [done] at h
    cases h
  · rw [done] at h
    exact ⟨a, between, rfl, h⟩

theorem Step.eq_ok_of_naming {α : Type} {name : String} {x : Step α} {a : α}
    (h : Step.naming name x m w = (.ok a, w')) : x m w = (.ok a, w') := by
  unfold Step.naming at h
  rcases done : x m w with ⟨failure | a, between⟩
  · rw [done] at h
    cases h
  · rw [done] at h
    cases h
    rfl

theorem Step.readBytes_of_writeText (h : Step.writeText p content m w = (.ok (), w')) :
    w'.files.readBytes p = .ok (utf8 content.toList) := by
  obtain ⟨tried, between, ran, h⟩ := Step.exists_of_bind_eq_ok h
  cases tried with
  | error fault => cases h
  | ok _ =>
    cases h
    unfold Step.tryWriteText at ran
    split at ran
    · cases ran
    · split at ran
      · next files written =>
        cases ran
        exact FileTree.readBytes_of_write written
      · cases ran

theorem readBytes_of_writeFile (h : writeFile p content m w = (.ok (), w')) :
    w'.files.readBytes p = .ok (utf8 content.toList) := by
  have ran := Step.eq_ok_of_naming h
  cases parent : p.parent? with
  | none =>
    rw [parent] at ran
    exact Step.readBytes_of_writeText ran
  | some parent =>
    rw [parent] at ran
    obtain ⟨_, between, -, written⟩ := Step.exists_of_bind_eq_ok ran
    exact Step.readBytes_of_writeText written

end Files

end NodeStorage
