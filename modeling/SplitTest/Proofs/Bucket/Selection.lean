import Mathlib.Data.List.Sort
import SplitTest.Assign
import SplitTest.Experiment
import SplitTest.Proofs.Digest.Remainder

namespace SplitTest

namespace Bucket

variable {Name : Type} [LE Name] [DecidableLE Name]
variable {experiment subject : Uuid} {names : List Name} {name : Name}

theorem ordered_eq_insertionSort [Std.IsLinearOrder Name] (names : List Name) :
    ordered names = names.insertionSort (· ≤ ·) := by
  simpa [ordered] using List.mergeSort_eq_insertionSort (r := (· ≤ ·)) names

theorem select_eq_ok_iff : select experiment subject names = .ok name ↔
    names ≠ [] ∧ ∃ place, Digest.residue
      (Digest.sha256 (variantKey experiment subject).toUTF8.toList)
      (UInt64.ofNat names.length) = .ok place ∧ (ordered names)[place.toNat]? = some name := by
  unfold select
  cases names with
  | nil => simp
  | cons first names =>
    dsimp only [List.isEmpty]
    generalize Digest.residue _ _ = reduced
    cases reduced with
    | error cause => simp [bind, Except.bind]
    | ok place =>
      cases found : (ordered (first :: names))[place.toNat]? with
      | none => simp [bind, Except.bind, found]
      | some name' => simp [bind, Except.bind, pure, Except.pure, found]

theorem mem_of_select (selected : select experiment subject names = .ok name) : name ∈ names := by
  obtain ⟨-, place, -, found⟩ := select_eq_ok_iff.mp selected
  exact List.mem_mergeSort.mp (List.mem_of_getElem? found)

def place (experiment subject : Uuid) (count : Nat) : Nat :=
  Digest.value (Digest.sha256 (variantKey experiment subject).toUTF8.toList) % count

theorem select_at_place (experiment subject : Uuid) (named : names ≠ [])
    (few : names.length ≤ Digest.maxModulus.toNat) :
    ∃ name, (ordered names)[place experiment subject names.length]? = some name ∧
      select experiment subject names = .ok name := by
  have fits : (UInt64.ofNat names.length).toNat = names.length := by
    apply UInt64.toNat_ofNat_of_lt'
    exact Nat.lt_of_le_of_lt few (by decide)
  have positive : 0 < UInt64.ofNat names.length := by
    rw [UInt64.lt_iff_toNat_lt, fits]
    exact List.length_pos_iff.mpr named
  have small : UInt64.ofNat names.length ≤ Digest.maxModulus := by
    rw [UInt64.le_iff_toNat_le, fits]
    exact few
  let digest := Digest.sha256 (variantKey experiment subject).toUTF8.toList
  have digested : Digest.residue digest _ = .ok _ := Digest.residue_eq_ok positive digest small
  have left := Digest.toNat_remainder small positive digest
  rw [fits] at left
  have inside : place experiment subject names.length < (ordered names).length := by
    rw [ordered, List.length_mergeSort]
    exact Nat.mod_lt _ (List.length_pos_iff.mpr named)
  have found := List.getElem?_eq_getElem inside
  exact ⟨_, found, select_eq_ok_iff.mpr ⟨named, _, digested, left ▸ found⟩⟩

theorem exists_select (named : names ≠ []) (few : names.length ≤ Digest.maxModulus.toNat) :
    ∃ name, select experiment subject names = .ok name := by
  obtain ⟨name, -, selected⟩ := select_at_place experiment subject named few
  exact ⟨name, selected⟩

theorem exists_select_names {variants : Variants} (full : variants.isEmpty = false)
    (few : variants.size ≤ Digest.maxModulus.toNat) :
    ∃ name, select experiment subject variants.names = .ok name := by
  apply exists_select
  · intro nothing
    rw [Variants.names, Std.ExtTreeMap.keys_eq_nil_iff] at nothing
    simp [nothing] at full
  · rw [Variants.names, Std.ExtTreeMap.length_keys]
    exact few

end Bucket

end SplitTest
