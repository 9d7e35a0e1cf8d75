import SplitTest.Proofs.Store.Built

/-!
The index of names. Whatever calls are made and taken back, an entry leads to a row of that name.
That every row has its own entry as well holds as long as no row takes a name that another one has.
-/

namespace SplitTest

namespace Store

def Sound (s : Store) : Prop :=
  ∀ key id, s.names[key]? = some id → ∃ e, s.experimentById id = some e ∧ e.nameKey = key

/-- Rows are under their own ids, and the index has one entry for each of them and no other. -/
structure Indexed (s : Store) : Prop where
  keyed : ∀ id e, s.experimentById id = some e → e.id = id
  sound : s.Sound
  complete : ∀ id e, s.experimentById id = some e → s.names[e.nameKey]? = some id

inductive Edited (s s' : Store) : Prop
  | kept (same : s'.experiments = s.experiments) (names : s'.names = s.names)
  | added (row : Experiment) (fresh : s.experimentById row.id = none)
      (free : s.names[row.nameKey]? = none)
      (saved : ∀ id, s'.experimentById id = if row.id = id then some row else s.experimentById id)
      (names : ∀ key, s'.names[key]? = if row.nameKey = key then some row.id else s.names[key]?)
  | replaced (old row : Experiment) (found : s.experimentById row.id = some old)
      (saved : ∀ id, s'.experimentById id = if row.id = id then some row else s.experimentById id)
      (names : ∀ key, s'.names[key]? =
        if old.nameKey = row.nameKey then s.names[key]?
        else if row.nameKey = key then some row.id
        else if old.nameKey = key then none else s.names[key]?)
  | removed (id : Uuid) (old : Experiment) (found : s.experimentById id = some old)
      (erased : ∀ id', s'.experimentById id' = if id = id' then none else s.experimentById id')
      (names : ∀ key, s'.names[key]? = if old.nameKey = key then none else s.names[key]?)

variable {s s' : Store} {id : Uuid} {e row : Experiment} {key : NameKey}

theorem experimentById_eq_none : s.experimentById id = none ↔ id ∉ s.experiments := by
  rw [experimentById, Option.map_eq_none_iff, Std.ExtTreeMap.mem_iff_isSome_getElem?,
    Option.not_isSome_iff_eq_none]

theorem edited_overwrite {old : StoredExperiment} (found : s.experiments[row.id]? = some old) :
    Edited s (s.overwrite old row) := by
  apply Edited.replaced old.row row
  · rw [experimentById, found]
    rfl
  · exact fun id => experimentById_insert
  · intro key
    unfold overwrite
    split
    · rfl
    · simp only [Std.ExtTreeMap.getElem?_insert, Std.ExtTreeMap.getElem?_erase,
        Std.LawfulEqCmp.compare_eq_iff_eq]

theorem edited_create (row : Experiment) (s : Store) : Edited s (s.createExperiment row).2 := by
  unfold createExperiment
  split
  case isTrue => exact .kept rfl rfl
  case isFalse fresh =>
    simp only [not_or] at fresh
    apply Edited.added row
    · exact experimentById_eq_none.mpr fresh.1
    · exact Std.ExtTreeMap.getElem?_eq_none fresh.2
    · exact fun id => experimentById_insert
    · intro key
      simp only [Std.ExtTreeMap.getElem?_insert, Std.LawfulEqCmp.compare_eq_iff_eq]

theorem edited_update (row : Experiment) (expected : Status) (s : Store) :
    Edited s (s.updateExperiment row expected).2 := by
  unfold updateExperiment
  cases found : s.experiments[row.id]? with
  | none => exact .kept rfl rfl
  | some old =>
    dsimp only
    split
    · exact edited_overwrite found
    · exact .kept rfl rfl

theorem edited_erase (id : Uuid) (s : Store) : Edited s (s.eraseExperiment id) := by
  unfold eraseExperiment
  cases found : s.experiments[id]? with
  | none => exact .kept rfl rfl
  | some old =>
    apply Edited.removed id old.row
    · rw [experimentById, found]
      rfl
    · intro id'
      simp only [experimentById, Std.ExtTreeMap.getElem?_erase, Std.LawfulEqCmp.compare_eq_iff_eq]
      split <;> rfl
    · intro key
      simp only [Std.ExtTreeMap.getElem?_erase, Std.LawfulEqCmp.compare_eq_iff_eq]

theorem edited_restore (row : Experiment) (s : Store) : Edited s (s.restoreExperiment row) := by
  unfold restoreExperiment
  cases found : s.experiments[row.id]? with
  | none => exact .kept rfl rfl
  | some old => exact edited_overwrite found

theorem edited_call (c : Call) (s : Store) : Edited s (c.perform s).2 := by
  cases c with
  | createExperiment row => exact edited_create row s
  | updateExperiment row expected => exact edited_update row expected s
  | createAssignment row =>
    simp only [Call.perform, createAssignment]
    split
    · exact .kept rfl rfl
    · exact .kept rfl rfl
  | _ => exact .kept rfl rfl

theorem edited_undo (u : Undo) (s : Store) : Edited s (u.perform s) := by
  cases u with
  | eraseExperiment id => exact edited_erase id s
  | restoreExperiment row => exact edited_restore row s
  | _ => exact .kept rfl rfl

theorem Sound.ne_of_nameKey {id' : Uuid} (sound : s.Sound) (stored : s.experimentById id = some e)
    (apart : e.nameKey ≠ key) (entry : s.names[key]? = some id') : id ≠ id' := by
  intro same
  obtain ⟨e', stored', named⟩ := sound key id' entry
  rw [← same, stored] at stored'
  cases stored'
  exact apart named

theorem Sound.step (sound : s.Sound) (edited : Edited s s') : s'.Sound := by
  intro key id entry
  cases edited with
  | kept same names =>
    rw [names] at entry
    rw [experimentById, same]
    exact sound key id entry
  | added row fresh free saved names =>
    rw [names] at entry
    rw [saved]
    split at entry
    case isTrue named =>
      cases entry
      exact ⟨row, if_pos rfl, named⟩
    case isFalse =>
      obtain ⟨e, stored, named⟩ := sound key id entry
      have other : row.id ≠ id := by
        intro same
        rw [same, stored] at fresh
        cases fresh
      exact ⟨e, by rw [if_neg other, stored], named⟩
  | replaced old row found saved names =>
    rw [names] at entry
    rw [saved]
    split at entry
    case isTrue same =>
      obtain ⟨e, stored, named⟩ := sound key id entry
      split
      case isTrue own =>
        rw [own, stored] at found
        cases found
        exact ⟨row, rfl, same.symm.trans named⟩
      case isFalse => exact ⟨e, stored, named⟩
    case isFalse =>
      split at entry
      case isTrue named =>
        cases entry
        exact ⟨row, if_pos rfl, named⟩
      case isFalse =>
        split at entry
        case isTrue => cases entry
        case isFalse apart =>
          rw [if_neg (sound.ne_of_nameKey found apart entry)]
          exact sound key id entry
  | removed gone old found erased names =>
    rw [names] at entry
    rw [erased]
    split at entry
    case isTrue => cases entry
    case isFalse apart =>
      rw [if_neg (sound.ne_of_nameKey found apart entry)]
      exact sound key id entry

theorem Built.sound (built : s.Built) : s.Sound := by
  induction built with
  | empty => intro key id entry; simp at entry
  | call c built ih => exact ih.step (edited_call c _)
  | undo u built ih => exact ih.step (edited_undo u _)

section Lookup

variable {name : String} {organization : Uuid}

theorem experimentByName_of_entry (entry : s.names[(organization, name)]? = some id)
    (stored : s.experimentById id = some e) :
    s.experimentByName name organization = .ok (some e) := by
  obtain ⟨old, found, rfl⟩ := Option.map_eq_some_iff.mp stored
  simp only [experimentByName, entry, found]

theorem experimentByName_of_no_entry (free : s.names[(organization, name)]? = none) :
    s.experimentByName name organization = .ok none := by
  simp only [experimentByName, free]

end Lookup

namespace Indexed

variable (indexed : s.Indexed)
include indexed

theorem getElem?_names : s.names[key]? = some id ↔
    ∃ e, s.experimentById id = some e ∧ e.nameKey = key := by
  constructor
  · exact indexed.sound key id
  · intro ⟨e, stored, named⟩
    rw [← named]
    exact indexed.complete id e stored

theorem eq_of_nameKey {id' : Uuid} {e' : Experiment} (stored : s.experimentById id = some e)
    (stored' : s.experimentById id' = some e') (same : e.nameKey = e'.nameKey) : id = id' := by
  have entry := indexed.complete id e stored
  have entry' := indexed.complete id' e' stored'
  rw [same] at entry
  exact Option.some.inj (entry.symm.trans entry')

theorem experimentByName (stored : s.experimentById id = some e) :
    s.experimentByName e.name e.organization = .ok (some e) :=
  experimentByName_of_entry (indexed.complete id e stored) stored

theorem ne_of_free (free : s.names[key]? = none) (stored : s.experimentById id = some e) :
    key ≠ e.nameKey := by
  intro same
  rw [same, indexed.complete id e stored] at free
  cases free

theorem step (edited : Edited s s')
    (keeps : ∀ id e e', s.experimentById id = some e → s'.experimentById id = some e' →
      e'.nameKey = e.nameKey ∨ s.names[e'.nameKey]? = none) : s'.Indexed := by
  have sound := indexed.sound.step edited
  cases edited with
  | kept same names =>
    have still (id : Uuid) : s'.experimentById id = s.experimentById id := by
      rw [Store.experimentById, same, Store.experimentById]
    refine ⟨fun id e stored => ?_, sound, fun id e stored => ?_⟩
    · exact indexed.keyed id e ((still id).symm.trans stored)
    · rw [names]
      exact indexed.complete id e ((still id).symm.trans stored)
  | added row fresh free saved names =>
    refine ⟨fun id e stored => ?_, sound, fun id e stored => ?_⟩
    all_goals
      rw [saved] at stored
      split at stored
    case refine_1.isTrue own =>
      cases stored
      exact own
    case refine_1.isFalse => exact indexed.keyed id e stored
    case refine_2.isTrue own =>
      cases stored
      rw [names, if_pos rfl, own]
    case refine_2.isFalse =>
      rw [names, if_neg (indexed.ne_of_free free stored)]
      exact indexed.complete id e stored
  | replaced old row found saved names =>
    have kept := keeps row.id old row found (by rw [saved, if_pos rfl])
    refine ⟨fun id e stored => ?_, sound, fun id e stored => ?_⟩
    all_goals
      rw [saved] at stored
      split at stored
    case refine_1.isTrue own =>
      cases stored
      exact own
    case refine_1.isFalse => exact indexed.keyed id e stored
    case refine_2.isTrue own =>
      cases stored
      rw [names, ← own]
      split
      case isTrue same => rw [← same, indexed.complete row.id old found]
      case isFalse => exact if_pos rfl
    case refine_2.isFalse other =>
      have entry := indexed.complete id e stored
      rw [names]
      split
      case isTrue => exact entry
      case isFalse moved =>
        have free := kept.resolve_left fun same => moved same.symm
        have apart : old.nameKey ≠ e.nameKey := by
          intro same
          exact other (indexed.eq_of_nameKey found stored same)
        rw [if_neg (indexed.ne_of_free free stored), if_neg apart, entry]
  | removed gone old found erased names =>
    refine ⟨fun id e stored => ?_, sound, fun id e stored => ?_⟩
    all_goals
      rw [erased] at stored
      split at stored
    case refine_1.isTrue => cases stored
    case refine_1.isFalse => exact indexed.keyed id e stored
    case refine_2.isTrue => cases stored
    case refine_2.isFalse other =>
      have apart : old.nameKey ≠ e.nameKey := by
        intro same
        exact other (indexed.eq_of_nameKey found stored same)
      rw [names, if_neg apart]
      exact indexed.complete id e stored

end Indexed

theorem indexed_empty : ({} : Store).Indexed where
  keyed id e stored := by simp [experimentById] at stored
  sound := Built.empty.sound
  complete id e stored := by simp [experimentById] at stored

theorem Sound.experimentByName (sound : s.Sound) (name : String) (organization : Uuid) :
    ∃ found, s.experimentByName name organization = .ok found ∧
      ∀ e, found = some e → e.nameKey = (organization, name) := by
  cases entry : s.names[(organization, name)]? with
  | none => exact ⟨none, experimentByName_of_no_entry entry, nofun⟩
  | some id =>
    obtain ⟨e, stored, named⟩ := sound _ id entry
    refine ⟨some e, experimentByName_of_entry entry stored, fun e' same => ?_⟩
    cases same
    exact named

end Store

/-- An update leaves a row its name, or gives it one that no row has. Other calls are free. -/
def Call.Admitted (s : Store) : Call → Prop
  | updateExperiment row _ => ∀ old, s.experimentById row.id = some old →
      row.nameKey = old.nameKey ∨ ∀ id e, s.experimentById id = some e → e.nameKey ≠ row.nameKey
  | _ => True

namespace Store.Indexed

variable {s : Store} {key : NameKey}

theorem getElem?_names_eq_none (indexed : s.Indexed)
    (free : ∀ id e, s.experimentById id = some e → e.nameKey ≠ key) : s.names[key]? = none := by
  cases entry : s.names[key]? with
  | none => rfl
  | some id =>
    obtain ⟨e, stored, named⟩ := indexed.sound key id entry
    exact absurd named (free id e stored)

theorem call {c : Call} (indexed : s.Indexed) (admitted : c.Admitted s) :
    (c.perform s).2.Indexed := by
  apply indexed.step (edited_call c s)
  intro id e e' stored stored'
  have effect := c.perform_effect s
  generalize (c.perform s).1 = reply, (c.perform s).2 = s' at effect stored'
  cases effect with
  | silent =>
    cases stored.symm.trans stored'
    exact .inl rfl
  | @created row s' fresh same saved =>
    rw [saved] at stored'
    split at stored'
    case isTrue own =>
      rw [own, stored] at fresh
      cases fresh
    case isFalse =>
      cases stored.symm.trans stored'
      exact .inl rfl
  | @updated row old expected s' found status same saved =>
    rw [saved] at stored'
    split at stored'
    case isTrue own =>
      cases stored'
      rw [← own] at stored
      exact (admitted e stored).imp_right indexed.getElem?_names_eq_none
    case isFalse =>
      cases stored.symm.trans stored'
      exact .inl rfl
  | bound fresh same bound =>
    cases stored.symm.trans ((same id).symm.trans stored')
    exact .inl rfl
  | recorded assignments same =>
    cases stored.symm.trans ((same id).symm.trans stored')
    exact .inl rfl

end Store.Indexed

end SplitTest
