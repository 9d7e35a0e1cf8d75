import SplitTest.Proofs.Store.Built
import SplitTest.Proofs.Store.Listing

namespace SplitTest

namespace Changes

variable {changes first later : Changes} {e e' : Experiment} {now : Timestamp}

def override (first later : Changes) : Changes where
  description := later.description.or first.description
  variants := later.variants.or first.variants
  targetingRules := later.targetingRules.or first.targetingRules
  traffic := later.traffic.or first.traffic

theorem apply_apply : later.apply (first.apply e) = (first.override later).apply e := by
  simp only [apply, override, Option.or_assoc, Option.getD_or]

theorem override_self (changes : Changes) : changes.override changes = changes := by
  simp only [override, Option.or_self]

theorem override_empty (changes : Changes) : changes.override {} = changes := rfl

structure Valid (changes : Changes) : Prop where
  variants : ∀ variants, changes.variants = some variants → 2 ≤ variants.size ∧ "" ∉ variants
  traffic : ∀ percentage, changes.traffic = some percentage → 1 ≤ percentage ∧ percentage ≤ 100

theorem Valid.override (valid : first.Valid) (valid' : later.Valid) :
    (first.override later).Valid where
  variants _ given := (Option.or_eq_some_iff.mp given).elim (valid'.variants _)
    fun kept => valid.variants _ kept.2
  traffic _ given := (Option.or_eq_some_iff.mp given).elim (valid'.traffic _)
    fun kept => valid.traffic _ kept.2

def Takes {α : Type} (given : Option α) (before after : α) : Prop :=
  (given = none → after = before) ∧ ∀ a, given = some a → after = a

theorem takes_getD {α : Type} (given : Option α) (before : α) :
    Takes given before (given.getD before) := by
  cases given <;> simp [Takes]

theorem takes_or {α : Type} (given before : Option α) :
    Takes (given.map some) before (given.or before) := by
  cases given <;> simp [Takes]

/-- A row and what changes make of it. The instant of the change is all else that is new. -/
structure Amends (changes : Changes) (e e' : Experiment) : Prop where
  id : e'.id = e.id
  organization : e'.organization = e.organization
  name : e'.name = e.name
  status : e'.status = e.status
  createdAt : e'.createdAt = e.createdAt
  startedAt : e'.startedAt = e.startedAt
  endedAt : e'.endedAt = e.endedAt
  description : Takes (changes.description.map some) e.description e'.description
  variants : Takes changes.variants e.variants e'.variants
  targetingRules : Takes (changes.targetingRules.map some) e.targetingRules e'.targetingRules
  traffic : Takes changes.traffic e.traffic e'.traffic

theorem amends_apply : changes.Amends e { changes.apply e with updatedAt := now } :=
  ⟨rfl, rfl, rfl, rfl, rfl, rfl, rfl, takes_or _ _, takes_getD _ _, takes_or _ _, takes_getD _ _⟩

end Changes

def StoredExperiment.patch (changes : Changes) (now : Timestamp) (stored : StoredExperiment) :
    StoredExperiment :=
  { stored with row := { changes.apply stored.row with updatedAt := now } }

namespace Store

variable {s : Store} {id other : Uuid} {changes first later : Changes} {now now' : Timestamp}
  {e : Experiment} {n : UInt64} {organization : Option Uuid} {status : Option Status}

def patch (id : Uuid) (changes : Changes) (now : Timestamp) (s : Store) : Store :=
  { s with experiments := s.experiments.modify id (·.patch changes now) }

theorem getElem?_patch : (s.patch id changes now).experiments[other]? =
    if id = other then s.experiments[other]?.map (·.patch changes now)
    else s.experiments[other]? :=
  getElem?_modify_eq ..

theorem experimentById_patch (stored : s.experimentById id = some e) :
    (s.patch id changes now).experimentById id =
      some { changes.apply e with updatedAt := now } := by
  obtain ⟨old, found, rfl⟩ := Option.map_eq_some_iff.mp stored
  rw [experimentById, getElem?_patch, if_pos rfl, found]
  rfl

theorem patch_patch : (s.patch id first now).patch id later now' =
    s.patch id (first.override later) now' := by
  have twice (stored : StoredExperiment) : (stored.patch first now).patch later now' =
      stored.patch (first.override later) now' := by
    simp only [StoredExperiment.patch, ← Changes.apply_apply]
    rfl
  simp only [patch, modify_modify, twice]

theorem patch_eq_overwrite (keyed : s.Keyed) (stored : s.experiments[id]? = some ⟨e, n⟩) :
    s.patch id changes now =
      s.overwrite ⟨e, n⟩ { changes.apply e with updatedAt := now } := by
  have same : e.id = id := keyed.id_eq stored
  have kept : e.nameKey = ({ changes.apply e with updatedAt := now } : Experiment).nameKey := rfl
  rw [overwrite, if_pos kept, patch]
  congr 1
  apply Std.ExtTreeMap.ext_getElem?
  intro other
  simp only [getElem?_modify_eq, Std.ExtTreeMap.getElem?_insert, Std.LawfulEqCmp.compare_eq_iff_eq]
  change _ = if e.id = other then _ else _
  rw [same]
  split
  case isTrue found =>
    rw [← found, stored]
    rfl
  case isFalse => rfl

theorem restore_patch (keyed : s.Keyed) (stored : s.experimentById id = some e) :
    (s.patch id changes now).restoreExperiment e = s := by
  obtain ⟨old, found, rfl⟩ := Option.map_eq_some_iff.mp stored
  have same : old.row.id = id := keyed.id_eq found
  have there : (s.patch id changes now).experiments[old.row.id]? =
      some (old.patch changes now) := by
    rw [getElem?_patch, if_pos same.symm, same, found]
    rfl
  have kept : (old.patch changes now).row.nameKey = old.row.nameKey := rfl
  have back : (s.experiments.modify id (·.patch changes now)).insert old.row.id old =
      s.experiments := by
    apply Std.ExtTreeMap.ext_getElem?
    intro other
    simp only [Std.ExtTreeMap.getElem?_insert, getElem?_modify_eq,
      Std.LawfulEqCmp.compare_eq_iff_eq, same]
    split
    case isTrue hit => rw [← hit, found]
    case isFalse => rfl
  simp only [restoreExperiment, there, overwrite, if_pos kept]
  exact congrArg (fun experiments => { s with experiments }) back

theorem Keyed.patch (keyed : s.Keyed) : (s.patch id changes now).Keyed where
  experiments found := by
    obtain ⟨stored, there, rfl⟩ := Option.map_eq_some_iff.mp found
    rw [getElem?_patch] at there
    split at there
    · obtain ⟨old, held, rfl⟩ := Option.map_eq_some_iff.mp there
      have same : old.row.id = _ := keyed.id_eq held
      exact same
    · exact keyed.id_eq there
  assignments := keyed.assignments

section Listings

variable (keyed : s.Keyed)
include keyed

theorem values_patch : (s.patch id changes now).experiments.values =
    s.experiments.values.map fun stored =>
      if stored.row.id = id then stored.patch changes now else stored := by
  rw [values_eq_map_snd, values_eq_map_snd, patch, toList_modify, List.map_map, List.map_map]
  apply List.map_congr_left
  rintro ⟨key, stored⟩ m
  have same : stored.row.id = key :=
    keyed.id_eq (Std.ExtTreeMap.mem_toList_iff_getElem?_eq_some.mp m)
  simp only [Function.comp_apply, same]

theorem listed_patch : (s.patch id changes now).listed organization status =
    (s.listed organization status).map fun stored =>
      if stored.row.id = id then stored.patch changes now else stored := by
  have kept (stored : StoredExperiment) : isListed organization status
      (if stored.row.id = id then stored.patch changes now else stored).row =
        isListed organization status stored.row := by
    split <;> rfl
  rw [listed, listed, values_patch keyed, List.filter_map, List.map_mergeSort]
  · congr 3
    funext stored
    exact kept stored
  · intro a _ b _
    unfold isNewer
    split <;> split <;> rfl

end Listings

structure Patches (changes : Changes) (e e' : Experiment) (s s' : Store) : Prop where
  amends : changes.Amends e e'
  row : s'.experimentById e.id = some e'
  others : ∀ other, other ≠ e.id → s'.experiments[other]? = s.experiments[other]?
  names : s'.names = s.names
  assignments : s'.assignments = s.assignments
  observations : s'.observations = s.observations
  nextSequence : s'.nextSequence = s.nextSequence
  listings : ∀ organization status limit offset,
    s'.listExperiments organization status limit offset =
      (s.listExperiments organization status limit offset).map fun row =>
        if row.id = e.id then e' else row

theorem patches_patch (keyed : s.Keyed) (stored : s.experimentById id = some e) :
    Patches changes e { changes.apply e with updatedAt := now } s (s.patch id changes now) where
  amends := Changes.amends_apply
  row := by
    rw [keyed.experiments stored]
    exact experimentById_patch stored
  others other apart := by
    rw [keyed.experiments stored] at apart
    rw [getElem?_patch, if_neg (Ne.symm apart)]
  names := rfl
  assignments := rfl
  observations := rfl
  nextSequence := rfl
  listings organization status limit offset := by
    rw [listExperiments, listExperiments, listing_eq_map, listing_eq_map, listed_patch keyed,
      List.map_take, List.map_drop, List.map_map, List.map_map]
    congr 2
    apply List.map_congr_left
    intro own m
    obtain ⟨⟨key, found⟩, -⟩ := mem_listed.mp m
    have same : own.row.id = key := keyed.id_eq found
    simp only [Function.comp_apply, keyed.experiments stored]
    split
    case isTrue hit =>
      have whole : s.experimentById id = some own.row := by
        rw [← hit, same, experimentById, found]
        rfl
      cases stored.symm.trans whole
      rfl
    case isFalse => rfl

end Store

end SplitTest
