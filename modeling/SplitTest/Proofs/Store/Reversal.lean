import SplitTest.Proofs.Store.Names

/-!
Taking writes back. The step that is kept for a write leads from the store after it to the store
before it, but for the number that the write has drawn.
-/

namespace SplitTest

section Tables

variable {α β : Type} [Ord α] [Std.TransOrd α] [Std.LawfulEqOrd α] {m : Std.ExtTreeMap α β}
  {k k' : α} {v v' : β}

theorem erase_insert (fresh : m[k]? = none) : (m.insert k v).erase k = m := by
  apply Std.ExtTreeMap.ext_getElem?
  intro key
  simp only [Std.ExtTreeMap.getElem?_erase, Std.ExtTreeMap.getElem?_insert]
  split
  case isTrue same => rw [← Std.LawfulEqCmp.compare_eq_iff_eq.mp same, fresh]
  case isFalse => rfl

theorem insert_insert (found : m[k]? = some v) : (m.insert k v').insert k v = m := by
  apply Std.ExtTreeMap.ext_getElem?
  intro key
  simp only [Std.ExtTreeMap.getElem?_insert]
  split
  case isTrue same => rw [← Std.LawfulEqCmp.compare_eq_iff_eq.mp same, found]
  case isFalse => rfl

theorem move_back (found : m[k]? = some v) (free : m[k']? = none) :
    (((m.erase k).insert k' v).erase k').insert k v = m := by
  apply Std.ExtTreeMap.ext_getElem?
  intro key
  simp only [Std.ExtTreeMap.getElem?_insert, Std.ExtTreeMap.getElem?_erase]
  split
  case isTrue same => rw [← Std.LawfulEqCmp.compare_eq_iff_eq.mp same, found]
  case isFalse =>
    split
    case isTrue same => rw [← Std.LawfulEqCmp.compare_eq_iff_eq.mp same, free]
    case isFalse => rfl

end Tables

namespace Store

variable {numbered : Prop} {base s s' : Store} {n : Nat}

def rewind (s : Store) (undos : List Undo) : Store := undos.foldl (fun s u => u.perform s) s

/-- A store holds what another one held. Observations are erased by their numbers, so theirs is
a matter of numbers that are drawn once. -/
structure Restored (numbered : Prop) (base s : Store) : Prop where
  experiments : s.experiments = base.experiments
  names : s.names = base.names
  assignments : s.assignments = base.assignments
  observations : numbered → s.observations = base.observations

/-- Numbers in use are below the next one, and `n` more can be drawn before they come round. -/
structure Numbered (n : Nat) (s : Store) : Prop where
  below : ∀ o ∈ s.observations, o.sequence < s.nextSequence
  room : s.nextSequence.toNat + n < UInt64.size

theorem Restored.refl (s : Store) : Restored numbered s s := ⟨rfl, rfl, rfl, fun _ => rfl⟩

theorem Restored.trans (first : Restored numbered base s) (second : Restored numbered s s') :
    Restored numbered base s' where
  experiments := second.experiments.trans first.experiments
  names := second.names.trans first.names
  assignments := second.assignments.trans first.assignments
  observations known := (second.observations known).trans (first.observations known)

theorem Restored.undo (same : Restored numbered base s) (u : Undo) :
    Restored numbered (u.perform base) (u.perform s) := by
  obtain ⟨experiments, names, assignments, observations, next⟩ := base
  obtain ⟨experiments', names', assignments', observations', next'⟩ := s
  obtain ⟨rfl, rfl, rfl, recorded⟩ := same
  cases u with
  | eraseExperiment id =>
    simp only [Undo.perform, eraseExperiment]
    split
    · exact ⟨rfl, rfl, rfl, recorded⟩
    · exact ⟨rfl, rfl, rfl, recorded⟩
  | restoreExperiment row =>
    simp only [Undo.perform, restoreExperiment]
    split
    · exact ⟨rfl, rfl, rfl, recorded⟩
    · exact ⟨rfl, rfl, rfl, recorded⟩
  | eraseAssignment experiment subject => exact ⟨rfl, rfl, rfl, recorded⟩
  | eraseObservation sequence =>
    exact ⟨rfl, rfl, rfl, fun known => congrArg (List.filter _) (recorded known)⟩

theorem Restored.rewind (same : Restored numbered base s) (undos : List Undo) :
    Restored numbered (base.rewind undos) (s.rewind undos) := by
  induction undos generalizing base s with
  | nil => exact same
  | cons u undos ih => exact ih (same.undo u)

theorem rewind_append (s : Store) (first second : List Undo) :
    s.rewind (first ++ second) = (s.rewind first).rewind second := List.foldl_append

theorem unwind_eq {chance : Chance} (whole : chance.undo = none) (pending : List Undo) (s : Store) :
    UnitOfWork.unwind chance.attempt pending s = ((none, []), s.rewind pending) := by
  induction pending generalizing s with
  | nil => rfl
  | cons u pending ih =>
    have taken : chance.attempt u s = (none, u.perform s) := by simp only [Chance.attempt, whole]
    rw [UnitOfWork.unwind, taken]
    exact ih (u.perform s)

theorem Numbered.next (numbers : s.Numbered (n + 1)) :
    (s.nextSequence + 1).toNat = s.nextSequence.toNat + 1 := by
  have room := numbers.room
  rw [UInt64.toNat_add]
  apply Nat.mod_eq_of_lt
  change s.nextSequence.toNat + 1 < UInt64.size
  omega

theorem Numbered.draw (numbers : s.Numbered (n + 1)) (next : s'.nextSequence = s.nextSequence + 1)
    (numbered : ∀ o ∈ s'.observations, o ∈ s.observations ∨ o.sequence = s.nextSequence) :
    s'.Numbered n := by
  have room := numbers.room
  have drawn := numbers.next
  constructor
  · intro o m
    rw [UInt64.lt_iff_toNat_lt, next, drawn]
    obtain old | new := numbered o m
    · exact Nat.lt_succ_of_lt (UInt64.lt_iff_toNat_lt.mp (numbers.below o old))
    · rw [new]
      exact Nat.lt_succ_self _
  · rw [next, drawn]
    omega

theorem Numbered.skip (numbers : s.Numbered (n + 1)) (observations : s'.observations = s.observations)
    (next : s'.nextSequence = s.nextSequence) : s'.Numbered n where
  below := by
    rw [observations, next]
    exact numbers.below
  room := by
    rw [next]
    exact Nat.lt_of_succ_lt numbers.room

theorem Numbered.call (numbers : s.Numbered (n + 1)) (c : Call) : (c.perform s).2.Numbered n := by
  cases c with
  | createExperiment row =>
    simp only [Call.perform, createExperiment]
    split
    · exact numbers.skip rfl rfl
    · apply numbers.draw
      · rfl
      · intro o m
        exact .inl m
  | updateExperiment row expected =>
    simp only [Call.perform, updateExperiment]
    split
    · exact numbers.skip rfl rfl
    · split
      · exact numbers.skip rfl rfl
      · exact numbers.skip rfl rfl
  | createAssignment row =>
    simp only [Call.perform, createAssignment]
    split
    · exact numbers.skip rfl rfl
    · exact numbers.skip rfl rfl
  | recordMetric row =>
    apply numbers.draw
    · rfl
    · intro o m
      obtain old | new := List.mem_append.mp m
      · exact .inl old
      · rw [List.mem_singleton.mp new]
        exact .inr rfl
  | _ => exact numbers.skip rfl rfl

theorem erase_created {row : Experiment} (fresh : row.id ∉ s.experiments)
    (free : row.nameKey ∉ s.names) :
    Restored numbered s ((s.createExperiment row).2.eraseExperiment row.id) := by
  have created : ¬ (row.id ∈ s.experiments ∨ row.nameKey ∈ s.names) := not_or.mpr ⟨fresh, free⟩
  simp only [createExperiment, if_neg created, eraseExperiment,
    Std.ExtTreeMap.getElem?_insert_self]
  constructor
  case experiments => exact erase_insert (Std.ExtTreeMap.getElem?_eq_none fresh)
  case names => exact erase_insert (Std.ExtTreeMap.getElem?_eq_none free)
  case assignments => rfl
  case observations => exact fun _ => rfl

theorem restore_overwritten {old : StoredExperiment} {row : Experiment} (id : old.row.id = row.id)
    (found : s.experiments[row.id]? = some old)
    (kept : row.nameKey = old.row.nameKey ∨
      s.names[old.row.nameKey]? = some row.id ∧ s.names[row.nameKey]? = none) :
    Restored numbered s ((s.overwrite old row).restoreExperiment old.row) := by
  have stored : (s.overwrite old row).experiments[old.row.id]? = some ⟨row, old.sequence⟩ := by
    rw [id]
    exact Std.ExtTreeMap.getElem?_insert_self
  simp only [restoreExperiment, stored]
  constructor
  case experiments =>
    change (s.experiments.insert row.id _).insert old.row.id old = s.experiments
    rw [id]
    exact insert_insert found
  case names =>
    by_cases same : old.row.nameKey = row.nameKey
    · simp only [overwrite, same, if_true]
    · obtain ⟨entry, free⟩ := kept.resolve_left fun renamed => same renamed.symm
      simp only [overwrite, if_neg same, if_neg (Ne.symm same), id]
      exact move_back entry free
  case assignments => rfl
  case observations => exact fun _ => rfl

theorem erase_bound {row : Assignment} (fresh : row.key ∉ s.assignments) :
    Restored numbered s
      ((s.createAssignment row).2.eraseAssignment row.experiment row.subject) := by
  simp only [createAssignment, if_neg fresh, eraseAssignment]
  constructor
  case assignments => exact erase_insert (Std.ExtTreeMap.getElem?_eq_none fresh)
  case observations => exact fun _ => rfl
  all_goals rfl

theorem erase_recorded (row : Observation) (numbers : numbered → s.Numbered n) :
    Restored numbered s ((s.appendObservation row).2.eraseObservation s.nextSequence) := by
  constructor
  case observations =>
    intro known
    have other (o : StoredObservation) (m : o ∈ s.observations) :
        decide (o.sequence ≠ s.nextSequence) = true :=
      decide_eq_true (UInt64.ne_of_lt ((numbers known).below o m))
    simp only [appendObservation, eraseObservation, List.filter_append,
      List.filter_eq_self.mpr other]
    simp
  all_goals rfl

theorem rewind_call {c : Call} (overwrites : ∀ row expected old, c = .updateExperiment row expected →
      s.experiments[row.id]? = some old → old.row.id = row.id ∧
        (row.nameKey = old.row.nameKey ∨
          s.names[old.row.nameKey]? = some row.id ∧ s.names[row.nameKey]? = none))
    (numbers : numbered → s.Numbered n) :
    Restored numbered s
      ((c.perform s).2.rewind ((c.perform s).1.toOption.bind (c.undo? s)).toList) := by
  cases c with
  | createExperiment row =>
    by_cases taken : row.id ∈ s.experiments ∨ row.nameKey ∈ s.names
    · simp only [Call.perform, createExperiment, if_pos taken]
      exact .refl s
    · have restored : Restored numbered s _ := erase_created (not_or.mp taken).1 (not_or.mp taken).2
      simp only [createExperiment, if_neg taken] at restored
      simp only [Call.perform, createExperiment, if_neg taken]
      exact restored
  | updateExperiment row expected =>
    cases found : s.experiments[row.id]? with
    | none =>
      simp only [Call.perform, updateExperiment, found]
      exact .refl s
    | some old =>
      by_cases status : old.row.status = expected
      · have stored : s.experimentById row.id = some old.row := by
          rw [experimentById, found]
          rfl
        obtain ⟨id, kept⟩ := overwrites row expected old rfl found
        simp only [Call.perform, updateExperiment, found, if_pos status, Except.toOption,
          Option.bind_some, Call.undo?, stored, Option.map_some, Option.toList]
        exact restore_overwritten id found kept
      · simp only [Call.perform, updateExperiment, found, if_neg status]
        exact .refl s
  | createAssignment row =>
    by_cases taken : row.key ∈ s.assignments
    · simp only [Call.perform, createAssignment, if_pos taken]
      exact .refl s
    · have restored : Restored numbered s _ := erase_bound taken
      simp only [createAssignment, if_neg taken] at restored
      simp only [Call.perform, createAssignment, if_neg taken]
      exact restored
  | recordMetric row => exact erase_recorded row numbers
  | experimentByName name organization =>
    simp only [Call.perform]
    cases s.experimentByName name organization with
    | error fault => exact .refl s
    | ok found => exact .refl s
  | metricStats experiment metric reductions =>
    simp only [Call.perform]
    cases s.metricStats experiment metric reductions with
    | error cause => exact .refl s
    | ok stats => exact .refl s
  | _ => exact .refl s

theorem Indexed.rewind_call {c : Call} (indexed : s.Indexed) (admitted : c.Admitted s)
    (numbers : numbered → s.Numbered n) :
    Restored numbered s
      ((c.perform s).2.rewind ((c.perform s).1.toOption.bind (c.undo? s)).toList) := by
  apply Store.rewind_call _ numbers
  rintro row expected old rfl found
  have stored : s.experimentById row.id = some old.row := by
    rw [experimentById, found]
    rfl
  refine ⟨indexed.keyed _ _ stored, (admitted old.row stored).imp_right fun free => ?_⟩
  exact ⟨indexed.complete _ _ stored, indexed.getElem?_names_eq_none free⟩

def adding (added : Option Assignment) (s : Store) : Store :=
  { s with assignments := added.elim s.assignments fun a => s.assignments.insert a.key a }

theorem createAssignment_adding {a : Assignment}
    (fresh : s.assignment a.experiment a.subject = none) :
    (s.adding none).createAssignment a = (.inserted, s.adding (some a)) := by
  have free : a.key ∉ s.assignments := by
    rw [Std.ExtTreeMap.mem_iff_isSome_getElem?, Option.not_isSome_iff_eq_none]
    exact fresh
  exact if_neg free

theorem createAssignment_taken {a row : Assignment}
    (bound : s.assignment row.experiment row.subject = some a) :
    (s.adding none).createAssignment row = (.conflict, s.adding none) := by
  obtain taken | ⟨-, -, free, -⟩ := createAssignment_cases row (s.adding none)
  · exact taken
  · cases free.symm.trans bound

theorem eraseAssignment_adding {a : Assignment}
    (fresh : s.assignment a.experiment a.subject = none) :
    (s.adding (some a)).eraseAssignment a.experiment a.subject = s.adding none := by
  have restored : (s.assignments.insert a.key a).erase a.key = s.assignments := erase_insert fresh
  unfold eraseAssignment adding
  exact congrArg (fun assignments => { s with assignments }) restored

end Store

end SplitTest
