import SplitTest.Proofs.Experiment.RoundTrip
import SplitTest.Proofs.Lifecycle.Smooth

namespace SplitTest

namespace Experiment

variable {settings : Settings} {e : Experiment}

theorem checkChanges_toChanges (checked : Lifecycle.checkDraft settings e.toDraft = .ok ()) :
    Lifecycle.checkChanges e.toChanges = .ok () := by
  obtain ⟨-, -, variants, traffic⟩ := Lifecycle.checkDraft_eq_ok.mp checked
  apply Lifecycle.checkChanges_eq_ok.mpr
  constructor
  · rintro _ ⟨⟩
    exact variants
  · rintro _ ⟨⟩
    exact traffic

/-- What is written of an experiment that passes the checks of a draft, with targeting rules that
are no null, is read back as a draft of the same fields. It can be created wherever its name is
free. Read back as changes, it leaves the experiment as it is but for the time of the update. -/
theorem reproduces (settings : Settings) (e : Experiment) (shown : e.targetingRules ≠ some .null)
    (checked : Lifecycle.checkDraft settings e.toDraft = .ok ()) :
    Draft.ofJson e.toJson = .ok e.toDraft ∧
      (∀ (organization : Uuid) (s : Store) (w : Workplace), w.Smooth (· ∉ s.experiments) s →
        s.Sound →
        (∀ id row, s.experimentById id = some row → row.nameKey ≠ (organization, e.name)) →
          ∃ made w', (Lifecycle.create settings e.toDraft organization).run Workplace.reply w =
              (.ok (.ok made), w') ∧
            made.toDraft = e.toDraft ∧ made.organization = organization ∧ made.status = .draft ∧
              s.createExperiment made = (.inserted, w'.store)) ∧
      ∃ changes, Changes.ofJson e.toJson = .ok changes ∧
        ∀ (s : Store) (n : UInt64) (w : Workplace), w.Smooth (fun _ => True) s →
          s.experiments[e.id]? = some ⟨e, n⟩ → e.status = .draft →
            ∃ now w', (Lifecycle.update e.id changes).run Workplace.reply w =
                (.ok (.ok { e with updatedAt := now }), w') ∧
              w'.store = { s with
                experiments := s.experiments.insert e.id ⟨{ e with updatedAt := now }, n⟩ } := by
  refine ⟨draft_ofJson_toJson shown, ?_, e.toChanges, changes_ofJson_toJson shown, ?_⟩
  · intro organization s w smooth sound free
    obtain ⟨made, w', ran, ⟨id, now, rfl⟩, stored⟩ :=
      Lifecycle.create_gives smooth sound free checked
    exact ⟨_, w', ran, rfl, rfl, rfl, stored⟩
  · intro s n w smooth stored status
    obtain ⟨saved, w', ran, ⟨now, rfl⟩, store⟩ :=
      Lifecycle.update_gives smooth stored status (checkChanges_toChanges checked)
    rw [e.apply_toChanges] at ran store
    refine ⟨now, w', ran, store.trans ?_⟩
    exact Store.overwrite_of_nameKey rfl

theorem reproduces_nested :
    let e : Experiment :=
      { id := ⟨1⟩, organization := ⟨2⟩, name := "colour", description := some "two hues"
        variants := .ofList [("blue", Json.object [("hex", .array [.unsigned 255, .null])]),
          ("green", Json.null)]
        targetingRules := some (.object [("country", .string "CH")]), traffic := 50 }
    let s : Store := (({} : Store).createExperiment e).2
    let w : Workplace := { store := s, unit := {}, chances := fun _ => { id := ⟨3⟩ } }
    e.targetingRules ≠ some .null ∧ Draft.ofJson e.toJson = .ok e.toDraft ∧
      (∃ made w', (Lifecycle.create {} e.toDraft ⟨9⟩).run Workplace.reply w = (.ok (.ok made), w') ∧
        made.toDraft = e.toDraft ∧ made.organization = ⟨9⟩) ∧
      ∃ changes, Changes.ofJson e.toJson = .ok changes ∧
        ∃ now w', (Lifecycle.update e.id changes).run Workplace.reply w =
          (.ok (.ok { e with updatedAt := now }), w') := by
  intro e s w
  have shown : e.targetingRules ≠ some .null := nofun
  have checked : Lifecycle.checkDraft {} e.toDraft = .ok () := by
    apply Lifecycle.checkDraft_eq_ok.mpr
    decide +kernel
  obtain ⟨drafted, creates, changes, read, updates⟩ := reproduces {} e shown checked
  have indexed : s.Indexed := Store.indexed_empty.call (c := .createExperiment e) trivial
  have stored : s.experiments[e.id]? = some ⟨e, 1⟩ := rfl
  have fresh : (⟨3⟩ : Uuid) ∉ s.experiments := by decide +kernel
  have unnamed : s.names[((⟨9⟩, e.name) : NameKey)]? = none := by decide +kernel
  refine ⟨shown, drafted, ?_, changes, read, ?_⟩
  · have smooth : w.Smooth (· ∉ s.experiments) s :=
      ⟨rfl, fun _ => ⟨rfl, rfl, rfl⟩, fun _ => fresh⟩
    have free (id : Uuid) (row : Experiment) (found : s.experimentById id = some row) :
        row.nameKey ≠ (⟨9⟩, e.name) := by
      intro same
      have entry := indexed.complete id row found
      rw [same, unnamed] at entry
      cases entry
    obtain ⟨made, w', ran, same, organization, -⟩ := creates ⟨9⟩ s w smooth indexed.sound free
    exact ⟨made, w', ran, same, organization⟩
  · have smooth : w.Smooth (fun _ => True) s :=
      ⟨rfl, fun _ => ⟨rfl, rfl, rfl⟩, fun _ => trivial⟩
    obtain ⟨now, w', ran, -⟩ := updates s 1 w smooth stored rfl
    exact ⟨now, w', ran⟩

end Experiment

end SplitTest
