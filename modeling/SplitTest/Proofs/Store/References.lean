import SplitTest.Proofs.Store.Names

namespace SplitTest.Store

inductive Step where
  | call (call : Call)
  | undo (undo : Undo)

def Step.perform : Step → Store → Store
  | call c, s => (c.perform s).2
  | undo u, s => u.perform s

def through (s : Store) (steps : List Step) : Store :=
  steps.foldl (fun s step => step.perform s) s

variable {s s' : Store} {key : NameKey} {id : Uuid} {e : Experiment}

theorem Built.step (built : s.Built) (step : Step) : (step.perform s).Built := by
  cases step with
  | call c => exact built.call c
  | undo u => exact built.undo u

theorem Built.through (built : s.Built) (steps : List Step) : (s.through steps).Built := by
  induction steps generalizing s with
  | nil => exact built
  | cons step steps ih => exact ih (built.step step)

theorem Built.exists_row (built : s.Built) (entry : s.names[key]? = some id) :
    ∃ e, s.experimentById id = some e ∧ e.id = id ∧ e.nameKey = key := by
  obtain ⟨e, stored, named⟩ := built.sound key id entry
  exact ⟨e, stored, built.keyed.experiments stored, named⟩

theorem edited_step (step : Step) (s : Store) : Edited s (step.perform s) := by
  cases step with
  | call c => exact edited_call c s
  | undo u => exact edited_undo u s

theorem Edited.getElem?_names_of_taken (edited : Edited s s')
    (stored : s'.experimentById e.id = some e)
    (taken : (s.experimentById e.id).map (·.nameKey) ≠ some e.nameKey) :
    s'.names[e.nameKey]? = some e.id := by
  have changed : s'.experimentById e.id ≠ s.experimentById e.id := by
    intro same
    rw [← same, stored] at taken
    exact taken rfl
  have own {id : Uuid} {row? : Option Experiment}
      (saved : ∀ id', s'.experimentById id' = if id = id' then row? else s.experimentById id') :
      row? = some e := by
    rw [saved] at stored changed
    split at stored
    case isTrue => exact stored
    case isFalse other => exact absurd (if_neg other) changed
  cases edited with
  | kept same names => exact absurd (by rw [experimentById, same, experimentById]) changed
  | added row fresh free saved names =>
    cases own saved
    rw [names, if_pos rfl]
  | replaced old row found saved names =>
    cases own saved
    rw [found] at taken
    rw [names, if_neg fun same => taken (congrArg some same), if_pos rfl]
  | removed gone old found erased names => cases own erased

/-- Whatever is asked for of a store that was empty, each entry of the index leads to a row with
that id, organization and name. So a look-up by name never breaks down, and what it finds is found
under its id as well. The step that gives a row its name lets it be found under that name. -/
theorem names_lead_to_rows (steps : List Step) :
    let final := ({} : Store).through steps
    (∀ organization name id, final.names[(organization, name)]? = some id →
      ∃ e, final.experimentById id = some e ∧ e.id = id ∧ e.organization = organization ∧
        e.name = name) ∧
    (∀ name organization,
      final.names[(organization, name)]? = none ∧
          final.experimentByName name organization = .ok none ∨
        ∃ e, final.names[(organization, name)]? = some e.id ∧
          final.experimentByName name organization = .ok (some e) ∧
          e.organization = organization ∧ e.name = name ∧
          final.experimentById e.id = some e) ∧
    ∀ (step : Step) (e : Experiment), (step.perform final).experimentById e.id = some e →
      (final.experimentById e.id).map (·.nameKey) ≠ some e.nameKey →
      (step.perform final).experimentByName e.name e.organization = .ok (some e) := by
  intro final
  have built : final.Built := Built.empty.through steps
  refine ⟨fun organization name id entry => ?_, fun name organization => ?_,
    fun step e stored taken => ?_⟩
  · obtain ⟨e, stored, own, named⟩ := built.exists_row entry
    obtain ⟨rfl, rfl⟩ := Prod.mk.inj named
    exact ⟨e, stored, own, rfl, rfl⟩
  · cases entry : final.names[(organization, name)]? with
    | none => exact .inl ⟨rfl, experimentByName_of_no_entry entry⟩
    | some id =>
      obtain ⟨e, stored, rfl, named⟩ := built.exists_row entry
      have found := experimentByName_of_entry entry stored
      obtain ⟨rfl, rfl⟩ := Prod.mk.inj named
      exact .inr ⟨e, rfl, found, rfl, rfl, stored⟩
  · exact experimentByName_of_entry ((edited_step step final).getElem?_names_of_taken stored taken) stored

def sample (id : BitVec 128) (name : String) : Experiment :=
  { id := ⟨id⟩, organization := ⟨9⟩, name }

theorem names_lead_to_rows_collided :
    let steps : List Step :=
      [.call (.createExperiment (sample 1 "colour")), .call (.createExperiment (sample 2 "shape")),
        .call (.updateExperiment (sample 2 "colour") .draft),
        .undo (.restoreExperiment (sample 1 "size")), .undo (.restoreExperiment (sample 2 "size")),
        .undo (.eraseExperiment ⟨1⟩), .call (.createExperiment (sample 3 "size"))]
    let final := ({} : Store).through steps
    let again : Step := .undo (.restoreExperiment (sample 2 "colour"))
    (final.experimentById ⟨2⟩).map (·.name) = some "size" ∧
      (∃ e, final.experimentById ⟨3⟩ = some e ∧ e.id = ⟨3⟩ ∧ e.name = "size" ∧
        final.experimentByName "size" ⟨9⟩ = .ok (some e)) ∧
      final.experimentByName "colour" ⟨9⟩ = .ok none ∧
      (again.perform final).experimentByName "colour" ⟨9⟩ = .ok (some (sample 2 "colour")) := by
  intro steps final again
  have entry : final.names[((⟨9⟩, "size") : NameKey)]? = some ⟨3⟩ := by decide +kernel
  have unnamed : final.names[((⟨9⟩, "colour") : NameKey)]? = none := by decide +kernel
  have second : (final.experimentById ⟨2⟩).map (·.nameKey) = some (⟨9⟩, "size") := by
    decide +kernel
  obtain ⟨leads, look, taken⟩ := names_lead_to_rows steps
  refine ⟨by decide +kernel, ?_, ?_, ?_⟩
  · obtain ⟨e, stored, own, -, named⟩ := leads ⟨9⟩ "size" ⟨3⟩ entry
    obtain ⟨gone, -⟩ | ⟨e', entry', found, -, -, stored'⟩ := look "size" ⟨9⟩
    · cases entry.symm.trans gone
    · have own' : e'.id = ⟨3⟩ := Option.some.inj (entry'.symm.trans entry)
      rw [own'] at stored'
      cases stored.symm.trans stored'
      exact ⟨e, stored, own, named, found⟩
  · obtain ⟨-, found⟩ | ⟨e, entry', -⟩ := look "colour" ⟨9⟩
    · exact found
    · cases entry'.symm.trans unnamed
  · apply taken again (sample 2 "colour")
    · rfl
    · intro same
      exact absurd (second.symm.trans same) (by decide)

end SplitTest.Store
