import NodeStorage.Proofs.Target.Entries

/-! The mount table and the disk descriptor, from the looks at devices to the file. The plans are gone
through in order, each device that is named by its identifier is looked at once, and the first one that
reports none ends the run before any file or directory is touched. The machine may answer each look as it
likes. -/

namespace NodeStorage

open Text

def World.after (w : World) (added : List Event) : World := { w with events := w.events ++ added }

theorem World.after_after (w : World) (first second : List Event) :
    (w.after first).after second = w.after (first ++ second) := by
  simp [World.after]

theorem World.after_nil (w : World) : w.after [] = w := by
  simp [World.after]

theorem exists_of_foundUuid_eq_error {device : String} {answer : Except Failure Output}
    {cause : Failure} (h : foundUuid device answer = .error cause) :
    ∃ source, cause = .propertyLookupFailed device source := by
  unfold foundUuid at h
  split at h
  · exact ⟨_, (Except.error.inj h).symm⟩
  · split at h
    · cases h
    · exact ⟨_, (Except.error.inj h).symm⟩

/-- What a file about filesystems holds for each plan: an entry made with the identifier of the device,
where that is asked for. -/
structure EntryRule (ε : Type) where
  asks : FilesystemPlan → Bool
  entry : FilesystemPlan → String → ε

namespace EntryRule

variable {ε : Type}

def looks (rule : EntryRule ε) (plans : List FilesystemPlan) : List Event :=
  (plans.filter rule.asks).map fun plan => .command (Properties.command plan.device)

/-- The plans get these entries, one after the other; every look finds an identifier. -/
inductive Entered (rule : EntryRule ε) (m : Machine) : List Event → List FilesystemPlan → List ε → Prop
    where
  | nil {before : List Event} : Entered rule m before [] []
  | known {before : List Event} {plan : FilesystemPlan} {plans : List FilesystemPlan} {entries : List ε}
      (h : rule.asks plan = false) (rest : Entered rule m before plans entries) :
      Entered rule m before (plan :: plans) (rule.entry plan "" :: entries)
  | asked {before : List Event} {plan : FilesystemPlan} {plans : List FilesystemPlan} {entries : List ε}
      {uuid : String} (h : rule.asks plan = true)
      (found : foundUuid plan.device (m.run before (Properties.command plan.device)) = .ok uuid)
      (rest : Entered rule m (before ++ [.command (Properties.command plan.device)]) plans entries) :
      Entered rule m before (plan :: plans) (rule.entry plan uuid :: entries)

/-- The first plan whose device reports no identifier, behind these that have their entries. -/
structure Unreported (rule : EntryRule ε) (m : Machine) (before : List Event)
    (plans earlier : List FilesystemPlan) (plan : FilesystemPlan) (failure : Failure) : Prop where
  parts : ∃ later, plans = earlier ++ plan :: later
  entered : ∃ entries, rule.Entered m before earlier entries
  asked : rule.asks plan = true
  cause : ∃ source, failure.rootCause = .propertyLookupFailed plan.device source ∧
    foundUuid plan.device (m.run (before ++ rule.looks earlier) (Properties.command plan.device)) =
      .error (.propertyLookupFailed plan.device source)

/-- How a file comes to be written: after all identifiers were found, or not at all. -/
inductive Run (rule : EntryRule ε) (text : List ε → String) (path : Path) (plans : List FilesystemPlan)
    (m : Machine) (w : World) : Except Failure (List ε) × World → Prop where
  | unreported {earlier : List FilesystemPlan} {plan : FilesystemPlan} {failure : Failure}
      (h : rule.Unreported m w.events plans earlier plan failure) :
      Run rule text path plans m w (.error failure, w.after (rule.looks (earlier ++ [plan])))
  | unwritten {entries : List ε} {failure : Failure} {w' : World}
      (entered : rule.Entered m w.events plans entries)
      (refused : writeFile path (text entries) m (w.after (rule.looks plans)) = (.error failure, w'))
      (events : w'.events = w.events ++ rule.looks plans) :
      Run rule text path plans m w (.error failure, w')
  | written {entries : List ε} {between w' : World}
      (entered : rule.Entered m w.events plans entries)
      (granted : writeFile path (text entries) m (w.after (rule.looks plans)) = (.ok (), between))
      (files : w'.files = between.files) (events : w'.events = w.events ++ rule.looks plans)
      (content : w'.files.readBytes path = .ok (utf8 (text entries).toList)) :
      Run rule text path plans m w (.ok entries, w')

structure MadeBy (rule : EntryRule ε) (f : FilesystemPlan → Step ε) : Prop where
  known : ∀ plan m w, rule.asks plan = false → f plan m w = (.ok (rule.entry plan ""), w)
  found : ∀ plan m w uuid, rule.asks plan = true →
    foundUuid plan.device (m.run w.events (Properties.command plan.device)) = .ok uuid →
      f plan m w = (.ok (rule.entry plan uuid), w.after [.command (Properties.command plan.device)])
  missed : ∀ plan m w cause, rule.asks plan = true →
    foundUuid plan.device (m.run w.events (Properties.command plan.device)) = .error cause →
      ∃ failure, failure.rootCause = cause ∧
        f plan m w = (.error failure, w.after [.command (Properties.command plan.device)])

variable {rule : EntryRule ε} {f : FilesystemPlan → Step ε} {m : Machine} {w : World}

theorem looks_cons_of_known {plan : FilesystemPlan} (h : rule.asks plan = false)
    (plans : List FilesystemPlan) : rule.looks (plan :: plans) = rule.looks plans := by
  rw [looks, List.filter_cons_of_neg (by simp [h]), looks]

theorem looks_cons_of_asked {plan : FilesystemPlan} (h : rule.asks plan = true)
    (plans : List FilesystemPlan) : rule.looks (plan :: plans) =
      .command (Properties.command plan.device) :: rule.looks plans := by
  rw [looks, List.filter_cons_of_pos h, List.map_cons, looks]

theorem Unreported.cons_known {before : List Event} {plans earlier : List FilesystemPlan}
    {first plan : FilesystemPlan} {failure : Failure}
    (h : rule.Unreported m before plans earlier plan failure) (known : rule.asks first = false) :
    rule.Unreported m before (first :: plans) (first :: earlier) plan failure := by
  obtain ⟨later, rfl⟩ := h.parts
  obtain ⟨entries, entered⟩ := h.entered
  refine ⟨⟨later, rfl⟩, ⟨_, .known known entered⟩, h.asked, ?_⟩
  rw [looks_cons_of_known known]
  exact h.cause

theorem Unreported.cons_asked {before : List Event} {plans earlier : List FilesystemPlan}
    {first plan : FilesystemPlan} {failure : Failure} {uuid : String}
    (h : rule.Unreported m (before ++ [.command (Properties.command first.device)]) plans earlier plan
      failure) (asked : rule.asks first = true)
    (found : foundUuid first.device (m.run before (Properties.command first.device)) = .ok uuid) :
    rule.Unreported m before (first :: plans) (first :: earlier) plan failure := by
  obtain ⟨later, rfl⟩ := h.parts
  obtain ⟨entries, entered⟩ := h.entered
  refine ⟨⟨later, rfl⟩, ⟨_, .asked asked found entered⟩, h.asked, ?_⟩
  rw [looks_cons_of_asked asked, ← List.singleton_append, ← List.append_assoc]
  exact h.cause

theorem MadeBy.forEach (made : rule.MadeBy f) (plans : List FilesystemPlan) (w : World) :
    (∃ entries, rule.Entered m w.events plans entries ∧
      Step.forEach f plans m w = (.ok entries, w.after (rule.looks plans))) ∨
    ∃ earlier plan failure, rule.Unreported m w.events plans earlier plan failure ∧
      Step.forEach f plans m w = (.error failure, w.after (rule.looks (earlier ++ [plan]))) := by
  induction plans generalizing w with
  | nil => exact .inl ⟨[], .nil, by rw [looks, List.filter_nil, List.map_nil, w.after_nil]; rfl⟩
  | cons first rest ih =>
    cases asks : rule.asks first with
    | false =>
      have step := made.known first m w asks
      rcases ih w with ⟨entries, entered, run⟩ | ⟨earlier, plan, failure, unreported, run⟩
      · refine .inl ⟨_, .known asks entered, ?_⟩
        rw [Step.forEach_cons_of_ok step, run, looks_cons_of_known asks]
        rfl
      · refine .inr ⟨first :: earlier, plan, failure, unreported.cons_known asks, ?_⟩
        rw [List.cons_append, looks_cons_of_known asks, Step.forEach_cons_of_ok step, run]
        rfl
    | true =>
      cases found : foundUuid first.device (m.run w.events (Properties.command first.device)) with
      | error cause =>
        -- The first look that finds none is the last one.
        obtain ⟨failure, root, step⟩ := made.missed first m w cause asks found
        obtain ⟨source, rfl⟩ := exists_of_foundUuid_eq_error found
        refine .inr ⟨[], first, failure, ⟨⟨rest, rfl⟩, ⟨[], .nil⟩, asks, source, root, ?_⟩, ?_⟩
        · rw [looks, List.filter_nil, List.map_nil, List.append_nil]
          exact found
        · rw [Step.forEach_cons_of_error step, List.nil_append, looks_cons_of_asked asks]
          rfl
      | ok uuid =>
        have step := made.found first m w uuid asks found
        rcases ih (w.after [.command (Properties.command first.device)]) with
          ⟨entries, entered, run⟩ | ⟨earlier, plan, failure, unreported, run⟩
        · refine .inl ⟨_, .asked asks found entered, ?_⟩
          rw [Step.forEach_cons_of_ok step, run, w.after_after, looks_cons_of_asked asks]
          rfl
        · refine .inr ⟨first :: earlier, plan, failure, unreported.cons_asked asks found, ?_⟩
          rw [List.cons_append, looks_cons_of_asked asks, Step.forEach_cons_of_ok step, run,
            w.after_after]
          rfl

end EntryRule

/-- A memory filesystem is named by its type. -/
def tableRule : EntryRule TableEntry where
  asks plan := plan.format ≠ .tmpfs
  entry plan uuid := plan.entry fun _ => uuid

def descriptorRule : EntryRule DescriptorEntry where
  asks _ := true
  entry plan uuid := plan.description fun _ => uuid

theorem tableRule_madeBy : tableRule.MadeBy fun plan =>
    Step.naming ("fstab entry for " ++ plan.mountPath) plan.tableEntry := by
  constructor
  · intro plan m w known
    have memory : plan.format = .tmpfs := by simpa [tableRule] using known
    simp [Step.naming, FilesystemPlan.tableEntry, memory, Step.pure_apply, tableRule,
      FilesystemPlan.entry, FilesystemPlan.spec, FilesystemFormat.text]
  · intro plan m w uuid asked found
    have other : plan.format ≠ .tmpfs := by simpa [tableRule] using asked
    simp [Step.naming, FilesystemPlan.tableEntry, other, Step.map_apply, lookUpUuid_apply, found,
      Except.map, tableRule, FilesystemPlan.entry, FilesystemPlan.spec, World.after]
  · intro plan m w cause asked found
    have other : plan.format ≠ .tmpfs := by simpa [tableRule] using asked
    obtain ⟨source, rfl⟩ := exists_of_foundUuid_eq_error found
    refine ⟨.target ("fstab entry for " ++ plan.mountPath) (.propertyLookupFailed plan.device source),
      rfl, ?_⟩
    simp [Step.naming, FilesystemPlan.tableEntry, other, Step.map_apply, lookUpUuid_apply, found,
      Except.map, World.after]

theorem descriptorRule_madeBy : descriptorRule.MadeBy FilesystemPlan.descriptorEntry := by
  constructor
  · intro plan m w known
    cases known
  · intro plan m w uuid _ found
    simp [FilesystemPlan.descriptorEntry, Step.map_apply, lookUpUuid_apply, found, Except.map,
      descriptorRule, FilesystemPlan.description, World.after]
  · intro plan m w cause _ found
    obtain ⟨source, rfl⟩ := exists_of_foundUuid_eq_error found
    refine ⟨.propertyLookupFailed plan.device source, rfl, ?_⟩
    simp [FilesystemPlan.descriptorEntry, Step.map_apply, lookUpUuid_apply, found, Except.map,
      World.after]

section Writing

variable {ε : Type} {rule : EntryRule ε} {f : FilesystemPlan → Step ε}

def entriesWritten (f : FilesystemPlan → Step ε) (text : List ε → String) (said : List ε → Notice)
    (plans : List FilesystemPlan) (path : Path) : Step (List ε) := do
  let entries ← Step.forEach f plans
  writeFile path (text entries)
  Step.note (said entries)
  return entries

theorem EntryRule.MadeBy.run (made : rule.MadeBy f) (text : List ε → String)
    (said : List ε → Notice) (plans : List FilesystemPlan) (path : Path) (m : Machine) (w : World) :
    rule.Run text path plans m w (entriesWritten f text said plans path m w) := by
  rcases made.forEach plans w with ⟨entries, entered, run⟩ | ⟨earlier, plan, failure, unreported, run⟩
  · have events : (writeFile path (text entries) m (w.after (rule.looks plans))).2.events =
        w.events ++ rule.looks plans := (writeFile_carries path (text entries)).events_eq
    rw [entriesWritten, Step.bind_of_ok run]
    rcases ran : writeFile path (text entries) m (w.after (rule.looks plans)) with
      ⟨failure | ⟨⟩, w'⟩
    · rw [Step.bind_of_error ran]
      rw [ran] at events
      exact .unwritten entered ran events
    · rw [Step.bind_of_ok ran]
      rw [ran] at events
      have content := readBytes_of_writeFile ran
      exact .written entered ran rfl events content
  · rw [entriesWritten, Step.bind_of_error run]
    exact .unreported unreported

end Writing

theorem writeTable_eq (plans : List FilesystemPlan) (path : Path) :
    writeTable plans path = entriesWritten
      (fun plan => Step.naming ("fstab entry for " ++ plan.mountPath) plan.tableEntry) writtenTable
      (fun entries => .info ("wrote " ++ decimal entries.length ++ " entries to " ++ path.text)) plans
      path := by
  rw [← tableText_eq_writtenTable]
  rfl

theorem writeDescriptor_eq (plans : List FilesystemPlan) (path : Path) :
    writeDescriptor plans path = entriesWritten FilesystemPlan.descriptorEntry writtenDescriptor
      (fun _ => .info ("wrote disk descriptor " ++ path.text))
      (plans.filter FilesystemPlan.isDescribed) path := by
  rw [← descriptorText_eq_writtenDescriptor]
  rfl

/-- The mount table and the disk descriptor are written after one look at each device that they name by
its identifier, in the order of the plans. If a look finds none, that is the last, the run fails for
that device and all files are as before; else the file holds the text of the entries, if it can be
written. -/
theorem identified_before_written (plans : List FilesystemPlan) (path : Path) (m : Machine)
    (w : World) :
    tableRule.Run writtenTable path plans m w (writeTable plans path m w) ∧
      descriptorRule.Run writtenDescriptor path
        (plans.filter fun plan => plan.label ∈ ["root", "efi", "varlib"] ∧ plan.format ≠ .tmpfs ∧
          plan.format ≠ .untouched) m w (writeDescriptor plans path m w) := by
  constructor
  · rw [writeTable_eq]
    exact tableRule_madeBy.run _ _ _ _ _ _
  · have described : plans.filter FilesystemPlan.isDescribed = plans.filter fun plan =>
        plan.label ∈ ["root", "efi", "varlib"] ∧ plan.format ≠ .tmpfs ∧ plan.format ≠ .untouched :=
      List.filter_congr fun plan _ => plan.isDescribed_eq
    rw [writeDescriptor_eq, described]
    exact descriptorRule_madeBy.run _ _ _ _ _ _

end NodeStorage
