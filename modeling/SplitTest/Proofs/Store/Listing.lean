import Mathlib.Data.List.Perm.Subperm
import Mathlib.Data.List.Sort
import SplitTest.Proofs.Store.Names
import SplitTest.Proofs.Table

namespace SplitTest

section Sorting

variable {α : Type} {le : α → α → Bool} {a : α} {before after : List α}

theorem orderedInsert_append (above : ∀ b ∈ before, le a b = false)
    (below : ∀ b ∈ after, le a b = true) :
    (before ++ after).orderedInsert (le · ·) a = before ++ a :: after := by
  induction before with
  | nil =>
    cases after with
    | nil => rfl
    | cons b after =>
      rw [List.nil_append, List.orderedInsert_cons, if_pos (below b List.mem_cons_self)]
      rfl
  | cons b before ih =>
    have pass : ¬ le a b = true := by simp [above b List.mem_cons_self]
    rw [List.cons_append, List.orderedInsert_cons, if_neg pass,
      ih fun c m => above c (List.mem_cons_of_mem _ m)]
    rfl

theorem mergeSort_eq_insertionSort (trans : ∀ a b c, le a b = true → le b c = true → le a c = true)
    (total : ∀ a b, (le a b || le b a) = true) (l : List α) :
    l.mergeSort le = l.insertionSort (le · ·) := by
  induction l with
  | nil => simp
  | cons a l ih =>
    obtain ⟨before, after, sorted, rest, above⟩ := List.mergeSort_cons trans total a l
    have ordered := List.pairwise_mergeSort trans total (a :: l)
    rw [sorted] at ordered
    have below := (List.pairwise_cons.mp (List.pairwise_append.mp ordered).2.1).1
    rw [List.insertionSort_cons, ← ih, rest, sorted,
      orderedInsert_append (fun b m => by simpa using above b m) below]

theorem pairwise_mergeSort_stable {R : α → α → Prop} {l : List α}
    (trans : ∀ a b c, le a b = true → le b c = true → le a c = true)
    (total : ∀ a b, (le a b || le b a) = true) (ordered : l.Pairwise R) :
    (l.mergeSort le).Pairwise fun a b => le a b = true ∧ (le b a = true → R a b) := by
  induction l with
  | nil => simp
  | cons a l ih =>
    obtain ⟨first, rest⟩ := List.pairwise_cons.mp ordered
    obtain ⟨before, after, sorted, split, above⟩ := List.mergeSort_cons trans total a l
    have decreasing := List.pairwise_mergeSort trans total (a :: l)
    rw [sorted] at decreasing ⊢
    have below := (List.pairwise_cons.mp (List.pairwise_append.mp decreasing).2.1).1
    have ih := ih rest
    rw [split] at ih
    obtain ⟨ihBefore, ihAfter, across⟩ := List.pairwise_append.mp ih
    have later (b : α) (m : b ∈ after) : R a b := by
      refine first b (List.mem_mergeSort.mp (?_ : b ∈ l.mergeSort le))
      rw [split]
      exact List.mem_append_right _ m
    have earlier (b : α) (m : b ∈ before) : le b a = true ∧ (le a b = true → R b a) := by
      have pass : le a b = false := by simpa using above b m
      refine ⟨?_, fun le => by rw [pass] at le; cases le⟩
      simpa [pass] using total a b
    refine List.pairwise_append.mpr ⟨ihBefore, ?_, fun b m c m' => ?_⟩
    · exact List.pairwise_cons.mpr ⟨fun b m => ⟨below b m, fun _ => later b m⟩, ihAfter⟩
    · obtain rfl | m' := List.mem_cons.mp m'
      · exact earlier b m
      · exact across b m c m'

end Sorting

namespace Store

variable {s : Store} {organization : Option Uuid} {status : Option Status} {e : Experiment}

theorem mem_values {stored : StoredExperiment} :
    stored ∈ s.experiments.values ↔ ∃ id : Uuid, s.experiments[id]? = some stored := by
  rw [values_eq_map_snd, List.mem_map]
  constructor
  · rintro ⟨⟨id, stored⟩, m, rfl⟩
    exact ⟨id, Std.ExtTreeMap.mem_toList_iff_getElem?_eq_some.mp m⟩
  · rintro ⟨id, found⟩
    exact ⟨(id, stored), Std.ExtTreeMap.mem_toList_iff_getElem?_eq_some.mpr found, rfl⟩

theorem mem_listing : e ∈ s.listing organization status ↔
    (∃ id, s.experimentById id = some e) ∧ isListed organization status e = true := by
  simp only [listing, List.mem_map, List.mem_mergeSort, List.mem_filter, mem_values]
  constructor
  · rintro ⟨stored, ⟨⟨id, found⟩, listed⟩, rfl⟩
    refine ⟨⟨id, ?_⟩, listed⟩
    rw [experimentById, found]
    rfl
  · rintro ⟨⟨id, found⟩, listed⟩
    obtain ⟨stored, row, rfl⟩ := Option.map_eq_some_iff.mp found
    exact ⟨stored, ⟨⟨id, row⟩, listed⟩, rfl⟩

theorem length_listing_le : (s.listing organization status).length ≤ s.experiments.size := by
  have rows : s.experiments.values.length = s.experiments.size := by
    rw [values_eq_map_snd, List.length_map, Std.ExtTreeMap.length_toList]
  rw [listing, List.length_map, List.length_mergeSort, ← rows]
  exact List.length_filter_le _ _

section Order

variable {a b c : StoredExperiment}

theorem isNewer_iff : isNewer a b = true ↔
    b.row.createdAt.nanoseconds < a.row.createdAt.nanoseconds ∨
      a.row.createdAt = b.row.createdAt ∧ b.sequence ≤ a.sequence := by
  simp [isNewer]

theorem isNewer_trans (first : isNewer a b = true) (second : isNewer b c = true) :
    isNewer a c = true := by
  rw [isNewer_iff] at first second ⊢
  obtain later | ⟨same, above⟩ := first
  · obtain later' | ⟨same', -⟩ := second
    · exact .inl (Int64.lt_trans later' later)
    · exact .inl (same' ▸ later)
  · obtain later' | ⟨same', above'⟩ := second
    · exact .inl (same ▸ later')
    · exact .inr ⟨same.trans same', UInt64.le_trans above' above⟩

theorem isNewer_total (a b : StoredExperiment) : (isNewer a b || isNewer b a) = true := by
  rw [Bool.or_eq_true, isNewer_iff, isNewer_iff]
  by_cases same : a.row.createdAt.nanoseconds = b.row.createdAt.nanoseconds
  · have same : a.row.createdAt = b.row.createdAt := congrArg Timestamp.mk same
    exact (UInt64.le_total b.sequence a.sequence).imp (fun above => .inr ⟨same, above⟩)
      fun above => .inr ⟨same.symm, above⟩
  · obtain earlier | later := Int64.lt_or_lt_of_ne same
    · exact .inr (.inl earlier)
    · exact .inl (.inl later)

end Order

def listed (organization : Option Uuid) (status : Option Status) (s : Store) :
    List StoredExperiment :=
  (s.experiments.values.filter fun e => isListed organization status e.row).mergeSort isNewer

theorem listing_eq_map : s.listing organization status =
    (s.listed organization status).map (·.row) := rfl

theorem mem_listed {stored : StoredExperiment} : stored ∈ s.listed organization status ↔
    (∃ id : Uuid, s.experiments[id]? = some stored) ∧
      isListed organization status stored.row = true := by
  rw [listed, List.mem_mergeSort, List.mem_filter, mem_values]

theorem pairwise_listed :
    (s.listed organization status).Pairwise fun a b => isNewer a b = true := by
  apply List.pairwise_mergeSort
  · exact fun _ _ _ => isNewer_trans
  · exact isNewer_total

theorem listing_eq_insertionSort : s.listing organization status =
    ((s.experiments.values.filter fun e => isListed organization status e.row).insertionSort
      (isNewer · ·)).map (·.row) := by
  rw [listing, mergeSort_eq_insertionSort]
  · exact fun _ _ _ => isNewer_trans
  · exact isNewer_total

theorem newest_of_find? {p : Experiment → Bool}
    (found : (s.listing organization status).find? p = some e) :
    ∃ own ∈ s.listed organization status, own.row = e ∧
      ∀ other ∈ s.listed organization status, p other.row = true → isNewer own other = true := by
  rw [listing_eq_map, List.find?_map] at found
  obtain ⟨own, first, rfl⟩ := Option.map_eq_some_iff.mp found
  refine ⟨own, List.mem_of_find?_eq_some first, rfl, fun other m wanted => ?_⟩
  obtain ⟨-, before, after, split, unwanted⟩ := List.find?_eq_some_iff_append.mp first
  have sorted : (s.listed organization status).Pairwise _ := pairwise_listed
  rw [split] at m sorted
  obtain m | rfl | m := (List.mem_append.mp m).imp_right List.mem_cons.mp
  · have not := unwanted other m
    simp [wanted] at not
  · simpa using isNewer_total other other
  · exact (List.pairwise_cons.mp (List.pairwise_append.mp sorted).2.1).1 other m

section Place

variable {s' : Store} {a b own : StoredExperiment}

def Precedes (a b : StoredExperiment) : Prop :=
  isNewer a b = true ∧ (isNewer b a = true → compare a.row.id b.row.id = .lt)

theorem Precedes.asymm (first : Precedes a b) : ¬ Precedes b a := by
  intro second
  have gt := Std.OrientedCmp.gt_of_lt (first.2 second.1)
  rw [second.2 first.1] at gt
  cases gt

theorem pairwise_values (keyed : s.Keyed) :
    s.experiments.values.Pairwise fun a b => compare a.row.id b.row.id = .lt := by
  rw [values_eq_map_snd, List.pairwise_map]
  have key {entry : Uuid × StoredExperiment} (m : entry ∈ s.experiments.toList) :
      entry.2.row.id = entry.1 :=
    keyed.id_eq (Std.ExtTreeMap.mem_toList_iff_getElem?_eq_some.mp m)
  refine Std.ExtTreeMap.ordered_keys_toList.imp_of_mem fun m m' ordered => ?_
  rw [key m, key m']
  exact ordered

theorem pairwise_precedes (keyed : s.Keyed) :
    (s.listed organization status).Pairwise Precedes := by
  apply pairwise_mergeSort_stable
  · exact fun _ _ _ => isNewer_trans
  · exact isNewer_total
  · exact (pairwise_values keyed).filter _

theorem place_mono {newer older : List StoredExperiment} (keyed : s.Keyed) (keyed' : s'.Keyed)
    (split : s.listed organization status = newer ++ own :: older)
    (stays : own ∈ s'.listed organization status)
    (kept : ∀ a ∈ s.listed organization status, isNewer a own = true →
      a ∈ s'.listed organization status) :
    ∃ newer' older', s'.listed organization status = newer' ++ own :: older' ∧
      newer.length ≤ newer'.length := by
  obtain ⟨newer', older', split'⟩ := List.append_of_mem stays
  refine ⟨newer', older', split', ?_⟩
  have ordered : (s.listed organization status).Pairwise Precedes := pairwise_precedes keyed
  have ordered' : (s'.listed organization status).Pairwise Precedes := pairwise_precedes keyed'
  rw [split, List.pairwise_append] at ordered
  rw [split', List.pairwise_append, List.pairwise_cons] at ordered'
  have distinct : newer.Nodup := ordered.1.imp fun first same => (same ▸ first).asymm (same ▸ first)
  refine (List.subperm_of_subset distinct fun a m => ?_).length_le
  have first : Precedes a own := ordered.2.2 a m own List.mem_cons_self
  have later := kept a (split ▸ List.mem_append_left _ m) first.1
  rw [split', List.mem_append, List.mem_cons] at later
  obtain m' | rfl | m' := later
  · exact m'
  · exact absurd first first.asymm
  · exact absurd (ordered'.2.1.1 a m') first.asymm

end Place

theorem experimentByName_stored {name : String} {organization : Uuid}
    (found : s.experimentByName name organization = .ok (some e)) :
    ∃ id, s.experimentById id = some e := by
  unfold experimentByName at found
  split at found
  · cases found
  · next id entry =>
    split at found
    · next stored row =>
      cases found
      refine ⟨id, ?_⟩
      rw [experimentById, row]
      rfl
    · cases found

end Store

end SplitTest
