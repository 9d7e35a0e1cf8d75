import SplitTest.Proofs.Store.Names

namespace SplitTest.Store

def after (s : Store) : List Call → Store
  | [] => s
  | c :: calls => (c.perform s).2.after calls

def Admits (s : Store) : List Call → Prop
  | [] => True
  | c :: calls => c.Admitted s ∧ (c.perform s).2.Admits calls

variable {s : Store} {calls : List Call}

theorem Built.after (built : s.Built) : (s.after calls).Built := by
  induction calls generalizing s with
  | nil => exact built
  | cons c calls ih => exact ih (built.call c)

theorem Indexed.after (indexed : s.Indexed) (admits : s.Admits calls) :
    (s.after calls).Indexed := by
  induction calls generalizing s with
  | nil => exact indexed
  | cons c calls ih => exact ih (indexed.call admits.1) admits.2

/-- What is found under a name has that name. If no update takes the name of another row, no two
rows share one, and each is found under its own. -/
theorem names_unique (calls : List Call) :
    let final := ({} : Store).after calls
    (∀ name organization, ∃ found, final.experimentByName name organization = .ok found ∧
      ∀ e, found = some e → e.nameKey = (organization, name)) ∧
    (({} : Store).Admits calls →
      (∀ id id' e e', final.experimentById id = some e → final.experimentById id' = some e' →
        e.nameKey = e'.nameKey → id = id') ∧
      ∀ id e, final.experimentById id = some e →
        final.experimentByName e.name e.organization = .ok (some e)) := by
  intro final
  constructor
  · have built : final.Built := Built.empty.after
    exact built.sound.experimentByName
  · intro admits
    have indexed : final.Indexed := indexed_empty.after admits
    constructor
    · intro id id' e e' stored stored' same
      exact indexed.eq_of_nameKey stored stored' same
    · intro id e stored
      exact indexed.experimentByName stored

def colour : Experiment := { id := ⟨1⟩, organization := ⟨9⟩, name := "colour" }

def shape : Experiment := { id := ⟨2⟩, organization := ⟨9⟩, name := "shape" }

def renamedTo (name : String) : List Call :=
  [.createExperiment colour, .createExperiment shape, .updateExperiment { shape with name } .draft]

theorem names_unique_renamed :
    let calls := renamedTo "size" ++ [.updateExperiment { colour with name := "shape" } .draft]
    ({} : Store).Admits calls ∧
      ∀ id e, (({} : Store).after calls).experimentById id = some e →
        (({} : Store).after calls).experimentByName e.name e.organization = .ok (some e) := by
  intro calls
  have free (s : Store) (indexed : s.Indexed) (key : NameKey) (entry : s.names[key]? = none) :
      ∀ id e, s.experimentById id = some e → e.nameKey ≠ key :=
    fun id e stored => (indexed.ne_of_free entry stored).symm
  have first : (({} : Store).after [.createExperiment colour, .createExperiment shape]).Indexed :=
    indexed_empty.after ⟨trivial, trivial, trivial⟩
  have admits : ({} : Store).Admits (renamedTo "size") := by
    refine ⟨trivial, trivial, fun old stored => .inr ?_, trivial⟩
    exact free _ first _ (by decide +kernel)
  have second := indexed_empty.after admits
  have all : ({} : Store).Admits calls := by
    refine ⟨trivial, trivial, admits.2.2.1, fun old stored => .inr ?_, trivial⟩
    exact free _ second _ (by decide +kernel)
  exact ⟨all, ((names_unique calls).2 all).2⟩

/-- A row is renamed to what another one is called. Both have the name now, and the first is no
longer found under it. -/
theorem update_takes_name :
    let before := ({} : Store).after [.createExperiment colour, .createExperiment shape]
    let final := ({} : Store).after (renamedTo "colour")
    (before.updateExperiment { shape with name := "colour" } .draft).1 = .updated ∧
      (final.experimentById ⟨1⟩).map (·.nameKey) = some (⟨9⟩, "colour") ∧
      (final.experimentById ⟨2⟩).map (·.nameKey) = some (⟨9⟩, "colour") ∧
      (final.experimentByName "colour" ⟨9⟩).toOption.map (Option.map (·.id)) = some (some ⟨2⟩) := by
  decide +kernel

end SplitTest.Store
