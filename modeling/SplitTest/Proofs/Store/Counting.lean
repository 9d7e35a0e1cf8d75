import Mathlib.Algebra.BigOperators.Group.List.Lemmas
import Mathlib.Algebra.GroupWithZero.Nat
import Mathlib.Data.List.Dedup
import Mathlib.Data.List.Perm.Subperm
import SplitTest.Proofs.Store.Listing

namespace SplitTest

variable {α : Type} [Ord α] [Std.TransOrd α] [Std.LawfulEqOrd α] [DecidableEq α] {a : α}
  {l : List α}

theorem mem_toList_ofList : a ∈ (Std.ExtTreeSet.ofList l).toList ↔ a ∈ l := by
  rw [Std.ExtTreeSet.mem_toList, Std.ExtTreeSet.mem_ofList, List.contains_iff_mem]

theorem toList_ofList_perm : (Std.ExtTreeSet.ofList l).toList.Perm l.dedup := by
  have distinct : (Std.ExtTreeSet.ofList l).toList.Nodup :=
    Std.ExtTreeSet.distinct_toList.imp fun apart same =>
      apart (Std.LawfulEqCmp.compare_eq_iff_eq.mpr same)
  rw [List.perm_ext_iff_of_nodup distinct l.nodup_dedup]
  intro a
  rw [mem_toList_ofList, List.mem_dedup]

theorem size_ofList : (Std.ExtTreeSet.ofList l).size = l.dedup.length := by
  rw [← Std.ExtTreeSet.length_toList, toList_ofList_perm.length_eq]

def tally (l : List α) : Std.ExtTreeMap α Nat :=
  l.foldl (fun counts a => counts.insert a (counts.getD a 0 + 1)) {}

theorem getElem?_tally : (tally l)[a]? = if a ∈ l then some (l.count a) else none := by
  have from' (counts : Std.ExtTreeMap α Nat) :
      (l.foldl (fun counts a => counts.insert a (counts.getD a 0 + 1)) counts)[a]? =
        if a ∈ l then some (counts.getD a 0 + l.count a) else counts[a]? := by
    induction l generalizing counts with
    | nil => simp
    | cons b l ih =>
      rw [List.foldl_cons, ih, Std.ExtTreeMap.getD_insert, Std.ExtTreeMap.getElem?_insert]
      by_cases same : b = a
      · subst same
        by_cases m : b ∈ l
        · simp [m]
          omega
        · simp [m, List.count_eq_zero_of_not_mem m]
      · simp [same, Ne.symm same]
  rw [tally, from']
  simp

theorem getD_tally : (tally l).getD a 0 = l.count a := by
  rw [Std.ExtTreeMap.getD_eq_getD_getElem?, getElem?_tally]
  split_ifs with occurs
  · rfl
  · exact (List.count_eq_zero_of_not_mem occurs).symm

theorem sum_values_tally : (tally l).values.sum = l.length := by
  have counted {entry : α × Nat} (m : entry ∈ (tally l).toList) :
      entry.1 ∈ l ∧ entry.2 = l.count entry.1 := by
    have found := Std.ExtTreeMap.mem_toList_iff_getElem?_eq_some.mp m
    rw [getElem?_tally] at found
    split_ifs at found with occurs
    exact ⟨occurs, (Option.some.inj found).symm⟩
  have keys : ((tally l).toList.map Prod.fst).Perm l.dedup := by
    rw [Std.ExtTreeMap.map_fst_toList_eq_keys]
    rw [List.perm_ext_iff_of_nodup Std.ExtTreeMap.nodup_keys l.nodup_dedup]
    intro a
    rw [Std.ExtTreeMap.mem_keys, Std.ExtTreeMap.mem_iff_isSome_getElem?, getElem?_tally,
      List.mem_dedup]
    split_ifs with occurs <;> simp [occurs]
  calc (tally l).values.sum
      = ((tally l).toList.map Prod.snd).sum := by rw [values_eq_map_snd]
    _ = (((tally l).toList.map Prod.fst).map fun a => l.count a).sum := by
      rw [List.map_map]
      exact congrArg _ (List.map_congr_left fun entry m => (counted m).2)
    _ = (l.dedup.map fun a => l.count a).sum := (keys.map _).sum_eq
    _ = l.length := List.sum_map_count_dedup_eq_length l

end SplitTest
