import SplitTest.Store

namespace SplitTest

namespace Experiment

def isPlain (e : Experiment) : Bool :=
  e.description.isNone && e.targetingRules.isNone && e.variants.toList.all (·.2.isNull)

def isLike (e e' : Experiment) : Bool :=
  e.isPlain && e'.isPlain && e.id = e'.id && e.organization = e'.organization && e.name = e'.name &&
    e.status = e'.status && e.variants.keys = e'.variants.keys && e.traffic = e'.traffic &&
    e.startedAt = e'.startedAt && e.endedAt = e'.endedAt && e.createdAt = e'.createdAt &&
    e.updatedAt = e'.updatedAt

theorem toList_of_isPlain {e : Experiment} (plain : e.isPlain = true) :
    e.variants.toList = e.variants.keys.map (·, Json.null) := by
  have payloads := ((Bool.and_eq_true _ _).mp plain).2
  rw [← Std.ExtTreeMap.map_fst_toList_eq_keys, List.map_map]
  refine (List.map_id _).symm.trans (List.map_congr_left fun ⟨name, payload⟩ m => ?_)
  have null : payload.isNull = true := List.all_eq_true.mp payloads _ m
  cases payload with
  | null => rfl
  | _ => cases null

theorem eq_of_isLike {e e' : Experiment} (like : e.isLike e' = true) : e = e' := by
  simp only [isLike, Bool.and_eq_true, decide_eq_true_eq] at like
  obtain ⟨⟨⟨⟨⟨⟨⟨⟨⟨⟨⟨plain, plain'⟩, id⟩, organization⟩, name⟩, status⟩, keys⟩, traffic⟩, startedAt⟩,
    endedAt⟩, createdAt⟩, updatedAt⟩ := like
  have variants : e.variants = e'.variants := by
    apply Std.ExtTreeMap.ext_toList
    rw [toList_of_isPlain plain, toList_of_isPlain plain', keys]
  simp only [isPlain, Bool.and_eq_true, Option.isNone_iff_eq_none] at plain plain'
  have description := plain.1.1.trans plain'.1.1.symm
  have rules := plain.1.2.trans plain'.1.2.symm
  cases e
  rw [Experiment.mk.injEq]
  exact ⟨id, organization, name, description, status, variants, rules, traffic, startedAt, endedAt,
    createdAt, updatedAt⟩

end Experiment

def StoredExperiment.isLike (a b : StoredExperiment) : Bool :=
  a.row.isLike b.row && a.sequence = b.sequence

theorem StoredExperiment.eq_of_isLike {a b : StoredExperiment} (like : a.isLike b = true) :
    a = b := by
  obtain ⟨row, sequence⟩ := (Bool.and_eq_true _ _).mp like
  cases a
  rw [StoredExperiment.mk.injEq]
  exact ⟨Experiment.eq_of_isLike row, of_decide_eq_true sequence⟩

end SplitTest
