import Mathlib.Data.List.Flatten
import Mathlib.Data.List.Perm.Basic
import Mathlib.Logic.Relation
import NodeStorage.Proofs.Run.Ensures
import NodeStorage.Proofs.Wipe.Worker

/-! Work on several disks side by side. A pool advances by one step of any one of its workers; a
worker that is done hands in its result. However the steps fall, every worker asks its own commands
in its own order and hands in its own outcome. -/

namespace NodeStorage

/-- The last list takes from all the others, from each in its order. -/
inductive Interleaved {α : Type} : List (List α) → List α → Prop where
  | nil : Interleaved [] []
  | drop {before after : List (List α)} {all : List α} (h : Interleaved (before ++ after) all) :
      Interleaved (before ++ [] :: after) all
  | take {before after : List (List α)} {a : α} {rest all : List α}
      (h : Interleaved (before ++ rest :: after) all) :
      Interleaved (before ++ (a :: rest) :: after) (a :: all)

namespace Interleaved

variable {α : Type} {lists : List (List α)} {all : List α}

theorem perm (h : Interleaved lists all) : all.Perm lists.flatten := by
  induction h with
  | nil => exact .refl _
  | drop h ih => simpa using ih
  | @take before after a rest all h ih =>
    simp only [List.flatten_append, List.flatten_cons, List.cons_append] at ih ⊢
    exact (ih.cons a).trans List.perm_middle.symm

theorem sublist (h : Interleaved lists all) {list : List α} (mem : list ∈ lists) :
    list.Sublist all := by
  induction h generalizing list with
  | nil => simp at mem
  | drop h ih =>
    simp only [List.mem_append, List.mem_cons] at mem
    rcases mem with before | rfl | after
    · exact ih (List.mem_append_left _ before)
    · exact List.nil_sublist _
    · exact ih (List.mem_append_right _ after)
  | @take before after a rest all h ih =>
    simp only [List.mem_append, List.mem_cons] at mem
    rcases mem with before | rfl | after
    · exact (ih (by simp [before])).cons a
    · exact (ih (by simp)).cons_cons a
    · exact (ih (by simp [after])).cons a

theorem eq_of_single {list : List α} (h : Interleaved [list] all) : all = list :=
  ((h.sublist (List.mem_singleton_self _)).eq_of_length (by simpa using h.perm.length_eq.symm)).symm

theorem filter (p : α → Bool) (h : Interleaved lists all) :
    Interleaved (lists.map (List.filter p)) (all.filter p) := by
  induction h with
  | nil => exact .nil
  | drop h ih =>
    rw [List.map_append] at ih
    rw [List.map_append, List.map_cons, List.filter_nil]
    exact .drop ih
  | @take before after a rest all h ih =>
    rw [List.map_append, List.map_cons] at ih ⊢
    by_cases hp : p a
    · rw [List.filter_cons_of_pos hp, List.filter_cons_of_pos hp]
      exact .take ih
    · rw [List.filter_cons_of_neg hp, List.filter_cons_of_neg hp]
      exact ih

theorem filter_eq {before after : List (List α)} {list : List α} {p : α → Bool}
    (h : Interleaved (before ++ list :: after) all) (own : ∀ a ∈ list, p a)
    (others : ∀ other ∈ before ++ after, ∀ a ∈ other, ¬ p a) : all.filter p = list := by
  have parts := h.filter p
  rw [List.map_append, List.map_cons, List.filter_eq_self.2 own] at parts
  have empty : ∀ other ∈ before ++ after, other.filter p = [] :=
    fun other mem => List.filter_eq_nil_iff.2 (others other mem)
  have before_nil : (before.map (List.filter p)).flatten = [] := by
    simpa [List.flatten_eq_nil_iff] using fun other mem => empty other (by simp [mem])
  have after_nil : (after.map (List.filter p)).flatten = [] := by
    simpa [List.flatten_eq_nil_iff] using fun other mem => empty other (by simp [mem])
  have length := parts.perm.length_eq
  rw [List.flatten_append, List.flatten_cons, before_nil, after_nil, List.nil_append,
    List.append_nil] at length
  exact ((parts.sublist (by simp)).eq_of_length length.symm).symm

end Interleaved

/-- Workers with what they still have to do, the results handed in so far, and the world. -/
structure Pool where
  running : List (WipeDecision × Work)
  arrived : List WipeResult
  world : World

namespace Pool

variable {m : Machine} {answer : Command → Except Failure Output}

inductive Advance (m : Machine) : Pool → Pool → Prop where
  | say {before after : List (WipeDecision × Work)} {decision : WipeDecision} {notice : Notice}
      {next : Work} {arrived : List WipeResult} {w : World} :
      Advance m ⟨before ++ (decision, .say notice next) :: after, arrived, w⟩
        ⟨before ++ (decision, next) :: after, arrived,
          { w with notices := w.notices ++ [notice] }⟩
  | ask {before after : List (WipeDecision × Work)} {decision : WipeDecision} {command : Command}
      {next : Except Failure Output → Work} {arrived : List WipeResult} {w : World} :
      Advance m ⟨before ++ (decision, .ask command next) :: after, arrived, w⟩
        ⟨before ++ (decision, next (m.run w.events command)) :: after, arrived,
          { w with events := w.events ++ [.command command] }⟩
  | finish {before after : List (WipeDecision × Work)} {decision : WipeDecision}
      {outcome : Except Failure WipeMethod} {arrived : List WipeResult} {w : World} :
      Advance m ⟨before ++ (decision, .done outcome) :: after, arrived, w⟩
        ⟨before ++ after, arrived ++ [⟨decision, outcome⟩], w⟩

/-- The pool may come to be the other one, by steps of any workers in any order. -/
def Reaches (m : Machine) : Pool → Pool → Prop := Relation.ReflTransGen (Advance m)

theorem reaches_of_work (before after : List (WipeDecision × Work)) (decision : WipeDecision)
    (work : Work) (arrived : List WipeResult) (w : World) :
    Reaches m ⟨before ++ (decision, work) :: after, arrived, w⟩
      ⟨before ++ after, arrived ++ [⟨decision, (work.step m w).1⟩], (work.step m w).2⟩ := by
  induction work generalizing w with
  | done outcome => exact .single .finish
  | say notice next ih => exact .head .say (ih _)
  | ask command next ih => exact .head .ask (ih _ _)

theorem exists_reaches_finished (p : Pool) : ∃ q, Reaches m p q ∧ q.running = [] := by
  obtain ⟨running, arrived, w⟩ := p
  induction running generalizing arrived w with
  | nil => exact ⟨⟨[], arrived, w⟩, .refl, rfl⟩
  | cons worker rest ih =>
    obtain ⟨decision, work⟩ := worker
    obtain ⟨q, reaches, finished⟩ := ih (arrived ++ [⟨decision, (work.step m w).1⟩])
      (work.step m w).2
    exact ⟨q, (reaches_of_work [] rest decision work arrived w).trans reaches, finished⟩

def pending (answer : Command → Except Failure Output) (p : Pool) : List WipeResult :=
  p.running.map fun (decision, work) => ⟨decision, work.outcome answer⟩

def remaining (answer : Command → Except Failure Output) (p : Pool) : List (List Command) :=
  p.running.map fun (_, work) => work.commands answer

theorem Advance.keeps (steady : m.Steady answer) {p q : Pool} (h : Advance m p q)
    {work : List Command} (rest : Interleaved (q.remaining answer) work) :
    ∃ more, q.world.events = p.world.events ++ more.map .command ∧
      Interleaved (p.remaining answer) (more ++ work) ∧ q.world.files = p.world.files ∧
      (q.arrived ++ q.pending answer).Perm (p.arrived ++ p.pending answer) := by
  cases h with
  | say =>
    simp only [remaining, pending, List.map_append, List.map_cons, Work.commands,
      Work.outcome] at rest ⊢
    exact ⟨[], by simp, rest, trivial, .refl _⟩
  | @ask before after decision command next arrived w =>
    rw [steady] at rest ⊢
    simp only [remaining, pending, List.map_append, List.map_cons, Work.commands,
      Work.outcome] at rest ⊢
    exact ⟨[command], by simp, .take rest, trivial, .refl _⟩
  | finish =>
    simp only [remaining, pending, List.map_append, List.map_cons, Work.commands,
      Work.outcome] at rest ⊢
    refine ⟨[], by simp, .drop rest, trivial, ?_⟩
    rw [List.append_assoc, List.singleton_append]
    exact List.Perm.append_left _ List.perm_middle.symm

/-- Once all workers are done, their commands have been asked, each worker's in order, and all
outcomes have been handed in. -/
theorem Reaches.finished (steady : m.Steady answer) {p q : Pool} (run : Reaches m p q)
    (finished : q.running = []) :
    ∃ work, q.world.events = p.world.events ++ work.map .command ∧
      Interleaved (p.remaining answer) work ∧ q.world.files = p.world.files ∧
      q.arrived.Perm (p.arrived ++ p.pending answer) := by
  induction run using Relation.ReflTransGen.head_induction_on with
  | refl =>
    refine ⟨[], by simp, ?_, rfl, ?_⟩
    · rw [remaining, finished]
      exact .nil
    · simp [pending, finished]
  | head step _ ih =>
    obtain ⟨work, events, interleaved, files, arrived⟩ := ih
    obtain ⟨more, events', interleaved', files', arrived'⟩ := step.keeps steady interleaved
    refine ⟨more ++ work, ?_, interleaved', files.trans files', arrived.trans arrived'⟩
    rw [events, events', List.map_append, List.append_assoc]

end Pool

end NodeStorage
