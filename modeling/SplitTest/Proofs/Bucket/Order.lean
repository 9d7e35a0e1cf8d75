import SplitTest.Proofs.Bucket.Selection
import SplitTest.Proofs.Text.ByteOrder

namespace SplitTest

namespace Bucket

variable {Name : Type} [LE Name] [DecidableLE Name] {experiment subject : Uuid}

theorem ordered_perm (names : List Name) : (ordered names).Perm names :=
  List.mergeSort_perm names _

section Linear

variable [Std.IsLinearOrder Name] {names names' : List Name}

theorem pairwise_ordered (names : List Name) : (ordered names).Pairwise (· ≤ ·) :=
  List.pairwise_mergeSort' (· ≤ ·) names

theorem ordered_eq_of_perm (perm : names.Perm names') : ordered names = ordered names' := by
  have same : (ordered names).Perm (ordered names') :=
    (ordered_perm names).trans (perm.trans (ordered_perm names').symm)
  apply same.eq_of_pairwise
  · intro _ _ _ _ le ge
    exact Std.le_antisymm le ge
  · exact pairwise_ordered names
  · exact pairwise_ordered names'

theorem select_eq_of_perm (perm : names.Perm names') :
    select experiment subject names = select experiment subject names' := by
  simp only [select, perm.isEmpty_eq, perm.length_eq, ordered_eq_of_perm perm]

end Linear

theorem ordered_map_bytes (texts : List String) :
    ordered (texts.map bytes) = (ordered texts).map bytes := by
  rw [ordered, ordered, List.map_mergeSort]
  intro s _ t _
  simp only [bytes_le_bytes]

theorem select_map_bytes (texts : List String) :
    select experiment subject (texts.map bytes) = (select experiment subject texts).map bytes := by
  simp only [select, ordered_map_bytes, List.isEmpty_map, List.length_map, List.getElem?_map]
  split
  · rfl
  · generalize Digest.residue _ _ = reduced
    cases reduced with
    | error cause => rfl
    | ok place =>
      simp only [bind, Except.bind]
      cases (ordered texts)[place.toNat]? <;> rfl

/-- The digest of both identifiers selects the name at the place that its value leaves among the
names in ascending order. Names may be any bytes, and any permutation of them gives the same name.
So do texts that these bytes encode, such as the names of variants in the order of their table. -/
theorem select_eq_getElem_sorted (experiment subject : Uuid) (names : List (List UInt8))
    (named : names ≠ []) (few : names.length < 2 ^ 56) :
    ∃ (sorted : List (List UInt8)) (name : List UInt8),
      sorted.Perm names ∧ sorted.Pairwise (· ≤ ·) ∧
      sorted[Digest.value (Digest.sha256 (variantKey experiment subject).toUTF8.toList) %
        names.length]? = some name ∧
      select experiment subject names = .ok name ∧ name ∈ names ∧
      (∀ names', names'.Perm names → select experiment subject names' = .ok name) ∧
      ∀ texts : List String, (texts.map bytes).Perm names →
        ∃ text, select experiment subject texts = .ok text ∧ bytes text = name := by
  have few : names.length ≤ Digest.maxModulus.toNat := Nat.le_of_lt_succ few
  obtain ⟨name, placed, selected⟩ := select_at_place experiment subject named few
  refine ⟨ordered names, name, ordered_perm names, pairwise_ordered names, placed, selected,
    mem_of_select selected, ?_, ?_⟩
  · intro names' perm
    rw [select_eq_of_perm perm, selected]
  · intro texts perm
    have same : (select experiment subject texts).map bytes = .ok name := by
      rw [← select_map_bytes, select_eq_of_perm perm, selected]
    cases chosen : select experiment subject texts with
    | error cause => simp [chosen, Except.map] at same
    | ok text =>
      rw [chosen] at same
      exact ⟨text, rfl, Except.ok.inj same⟩

theorem select_eq_getElem_sorted_bytes :
    let names : List (List UInt8) := [[0xff], [0x62], [0xff], [0xfe]]
    names ≠ [] ∧ names.length < 2 ^ 56 ∧
      select ⟨1⟩ ⟨7⟩ names = .ok [0xfe] ∧ select ⟨1⟩ ⟨7⟩ names.reverse = .ok [0xfe] := by
  intro names
  have named : names ≠ [] := List.cons_ne_nil _ _
  have few : names.length < 2 ^ 56 := by decide
  obtain ⟨sorted, name, -, -, -, selected, -, permuted, -⟩ :=
    select_eq_getElem_sorted ⟨1⟩ ⟨7⟩ names named few
  have digested : Digest.residue (Digest.sha256 (variantKey ⟨1⟩ ⟨7⟩).toUTF8.toList) 4 = .ok 1 := by
    decide +kernel
  have second : (ordered names)[1]? = some [0xfe] := by
    rw [ordered_eq_insertionSort]
    rfl
  have found : select ⟨1⟩ ⟨7⟩ names = .ok [0xfe] :=
    select_eq_ok_iff.mpr ⟨named, 1, digested, second⟩
  cases selected.symm.trans found
  exact ⟨named, few, found, permuted _ names.reverse_perm⟩

end Bucket

end SplitTest
