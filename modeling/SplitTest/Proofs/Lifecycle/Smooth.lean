import SplitTest.Proofs.Lifecycle.Checks
import SplitTest.Proofs.Service.Smooth
import SplitTest.Proofs.Store.Names

namespace SplitTest

namespace Store

variable {s : Store} {row : Experiment} {old : StoredExperiment}

namespace Sound

variable {key : NameKey} (sound : s.Sound)
include sound

theorem getElem?_names_eq_none (free : ∀ id e, s.experimentById id = some e → e.nameKey ≠ key) :
    s.names[key]? = none := by
  cases entry : s.names[key]? with
  | none => rfl
  | some id =>
    obtain ⟨e, stored, named⟩ := sound key id entry
    exact absurd named (free id e stored)

theorem experimentByName_eq_none {name : String} {organization : Uuid}
    (free : ∀ id e, s.experimentById id = some e → e.nameKey ≠ (organization, name)) :
    s.experimentByName name organization = .ok none :=
  experimentByName_of_no_entry (sound.getElem?_names_eq_none free)

theorem createExperiment_inserts (fresh : row.id ∉ s.experiments)
    (free : ∀ id e, s.experimentById id = some e → e.nameKey ≠ row.nameKey) :
    s.createExperiment row = (.inserted, (s.createExperiment row).2) := by
  have unnamed : row.nameKey ∉ s.names := by
    rw [Std.ExtTreeMap.mem_iff_isSome_getElem?, sound.getElem?_names_eq_none free]
    nofun
  rw [createExperiment, if_neg (not_or.mpr ⟨fresh, unnamed⟩)]

end Sound

theorem updateExperiment_updates (stored : s.experiments[row.id]? = some old) :
    s.updateExperiment row old.row.status = (.updated, s.overwrite old row) := by
  simp only [updateExperiment, stored, if_true]

theorem overwrite_of_nameKey (same : old.row.nameKey = row.nameKey) : s.overwrite old row =
    { s with experiments := s.experiments.insert row.id ⟨row, old.sequence⟩ } := by
  rw [overwrite, if_pos same]

end Store

namespace Lifecycle

variable {settings : Settings} {draft : Draft} {organization : Uuid} {s : Store} {w : Workplace}

theorem create_gives (smooth : w.Smooth (· ∉ s.experiments) s) (sound : s.Sound)
    (free : ∀ id e, s.experimentById id = some e → e.nameKey ≠ (organization, draft.name))
    (checked : checkDraft settings draft = .ok ()) :
    ∃ e w', (create settings draft organization).run Workplace.reply w = (.ok (.ok e), w') ∧
      (∃ id now, e = ofDraft draft organization id now) ∧
        s.createExperiment e = (.inserted, w'.store) := by
  apply Transaction.run_gives fun e s' =>
    (∃ id now, e = ofDraft draft organization id now) ∧ s.createExperiment e = (.inserted, s')
  apply Operation.Gives.bind
  apply Operation.Gives.ofOutcome checked
  apply Operation.Gives.bind
  have unnamed : (Call.experimentByName draft.name organization).perform s = (.ok none, s) := by
    rw [Call.perform, sound.experimentByName_eq_none free]
  apply Operation.Gives.call smooth unnamed
  intro w smooth
  dsimp only [Option.isSome]
  rw [if_neg Bool.false_ne_true]
  apply Operation.Gives.bind
  apply Operation.Gives.freshId smooth
  intro id w fresh smooth
  apply Operation.Gives.bind
  apply Operation.Gives.now smooth
  intro now w smooth
  apply Operation.Gives.bind
  let e := ofDraft draft organization id now
  have inserted : s.createExperiment e = (.inserted, (s.createExperiment e).2) :=
    sound.createExperiment_inserts fresh free
  have told : (Call.createExperiment e).perform s = (.ok .inserted, (s.createExperiment e).2) := by
    rw [Call.perform, inserted]
  apply Operation.Gives.call smooth told
  intro w smooth
  apply Operation.Gives.bind
  apply Operation.Gives.emit smooth
  intro w smooth
  apply Operation.Gives.pure
  rw [smooth.store]
  exact ⟨⟨id, now, rfl⟩, inserted⟩

variable {e row : Experiment} {id : Uuid} {old : StoredExperiment} {drawn : Uuid → Prop}

theorem load_gives {good : Experiment → Workplace → Prop} (smooth : w.Smooth drawn s)
    (found : s.experimentById id = some e) (goes : ∀ w', w'.Smooth drawn s → good e w') :
    (load id).Gives good w := by
  apply Operation.Gives.bind
  apply Operation.Gives.call smooth rfl
  intro w smooth
  rw [found]
  apply Operation.Gives.pure
  exact goes w smooth

theorem loadIn_gives {good : Experiment → Workplace → Prop} (action : String)
    (smooth : w.Smooth drawn s) (found : s.experimentById id = some e)
    (goes : ∀ w', w'.Smooth drawn s → good e w') : (loadIn e.status action id).Gives good w := by
  apply Operation.Gives.bind
  apply load_gives smooth found
  intro w smooth
  rw [if_pos rfl]
  apply Operation.Gives.pure
  exact goes w smooth

theorem save_gives {good : Experiment → Workplace → Prop} (smooth : w.Smooth drawn s)
    (stored : s.experiments[row.id]? = some old)
    (goes : ∀ now w', w'.Smooth drawn (s.overwrite old { row with updatedAt := now }) →
      good { row with updatedAt := now } w') : (save row old.row.status).Gives good w := by
  apply Operation.Gives.bind
  apply Operation.Gives.now smooth
  intro now w smooth
  apply Operation.Gives.bind
  let saved : Experiment := { row with updatedAt := now }
  have there : s.experiments[saved.id]? = some old := stored
  have told : (Call.updateExperiment saved old.row.status).perform s =
      (.ok .updated, s.overwrite old saved) := by
    rw [Call.perform, Store.updateExperiment_updates there]
  apply Operation.Gives.call smooth told
  intro w smooth
  apply Operation.Gives.pure
  exact goes now w smooth

variable {changes : Changes} {n : UInt64}

theorem update_gives (smooth : w.Smooth drawn s) (stored : s.experiments[e.id]? = some ⟨e, n⟩)
    (status : e.status = .draft) (checked : checkChanges changes = .ok ()) :
    ∃ saved w', (update e.id changes).run Workplace.reply w = (.ok (.ok saved), w') ∧
      (∃ now, saved = { changes.apply e with updatedAt := now }) ∧
        w'.store = s.overwrite ⟨e, n⟩ saved := by
  have found : s.experimentById e.id = some e := by
    rw [Store.experimentById, stored]
    rfl
  apply Transaction.run_gives fun saved s' =>
    (∃ now, saved = { changes.apply e with updatedAt := now }) ∧ s' = s.overwrite ⟨e, n⟩ saved
  rw [← status]
  apply Operation.Gives.bind
  apply loadIn_gives "update" smooth found
  intro w smooth
  apply Operation.Gives.bind
  apply Operation.Gives.ofOutcome checked
  apply Operation.Gives.bind
  have there : s.experiments[(changes.apply e).id]? = some ⟨e, n⟩ := stored
  apply save_gives smooth there
  intro now w smooth
  apply Operation.Gives.bind
  apply Operation.Gives.emit smooth
  intro w smooth
  apply Operation.Gives.pure
  exact ⟨⟨now, rfl⟩, smooth.store⟩

end Lifecycle

end SplitTest
