import Mathlib.Data.List.Nodup
import Mathlib.Data.List.Perm.Basic
import SplitTest.Json
import Std.Data.ExtTreeMap

namespace SplitTest

theorem values_eq_map_snd {α β : Type} {cmp : α → α → Ordering} [Std.TransCmp cmp]
    (m : Std.ExtTreeMap α β cmp) : m.values = m.toList.map Prod.snd := by
  rcases m with ⟨m⟩
  induction m using Std.ExtDTreeMap.inductionOn with
  | mk m =>
    rcases m with ⟨m, balanced⟩
    change m.values = (Std.DTreeMap.Internal.Impl.Const.toList m).map Prod.snd
    rw [Std.DTreeMap.Internal.Impl.values_eq_map_snd,
      Std.DTreeMap.Internal.Impl.Const.toList_eq_toListModel_map, List.map_map]
    rfl

section Ordered

variable {α β : Type} [Ord α] [Std.LawfulEqOrd α] {entries : List (α × β)}

theorem nodup_of_ordered (ordered : entries.Pairwise fun a b => compare a.1 b.1 = .lt) :
    (entries.map Prod.fst).Nodup := by
  rw [List.Nodup, List.pairwise_map]
  refine ordered.imp fun {a b} less same => ?_
  have self : compare b.1 b.1 = .eq := Std.ReflCmp.compare_self
  rw [same, self] at less
  cases less

variable [Std.TransOrd α] {table : Std.ExtTreeMap α β}

theorem toList_eq (ordered : entries.Pairwise fun a b => compare a.1 b.1 = .lt)
    (same : ∀ key b, table[key]? = some b ↔ (key, b) ∈ entries) : table.toList = entries := by
  have distinct : table.toList.Nodup :=
    (nodup_of_ordered Std.ExtTreeMap.ordered_keys_toList).of_map
  have perm : table.toList.Perm entries := by
    apply (List.perm_ext_iff_of_nodup distinct (nodup_of_ordered ordered).of_map).mpr
    rintro ⟨key, b⟩
    rw [Std.ExtTreeMap.mem_toList_iff_getElem?_eq_some, same]
  refine perm.eq_of_pairwise (fun a b _ _ less greater => ?_)
    Std.ExtTreeMap.ordered_keys_toList ordered
  cases (Std.OrientedCmp.gt_of_lt less).symm.trans greater

theorem toList_modify [DecidableEq α] (key : α) (f : β → β) : (table.modify key f).toList =
    table.toList.map fun (k, b) => (k, if k = key then f b else b) := by
  apply toList_eq
  case ordered => exact List.pairwise_map.mpr Std.ExtTreeMap.ordered_keys_toList
  case same =>
    intro k b
    simp only [Std.ExtTreeMap.getElem?_modify, Std.LawfulEqCmp.compare_eq_iff_eq, List.mem_map,
      Prod.exists, Prod.mk.injEq, Std.ExtTreeMap.mem_toList_iff_getElem?_eq_some]
    constructor
    · split
      case isTrue found =>
        subst found
        intro changed
        obtain ⟨a, there, rfl⟩ := Option.map_eq_some_iff.mp changed
        exact ⟨key, a, there, rfl, if_pos rfl⟩
      case isFalse other =>
        exact fun there => ⟨k, b, there, rfl, if_neg (Ne.symm other)⟩
    · rintro ⟨_, a, there, rfl, rfl⟩
      split
      case isTrue found =>
        subst found
        rw [there, Option.map_some, if_pos rfl]
      case isFalse other => rw [there, if_neg (Ne.symm other)]

theorem getElem?_modify_eq [DecidableEq α] (key k : α) (f : β → β) : (table.modify key f)[k]? =
    if key = k then table[k]?.map f else table[k]? := by
  rw [Std.ExtTreeMap.getElem?_modify]
  simp only [Std.LawfulEqCmp.compare_eq_iff_eq]
  split
  case isTrue same => rw [same]
  case isFalse => rfl

theorem modify_modify (key : α) (f g : β → β) :
    (table.modify key f).modify key g = table.modify key fun b => g (f b) := by
  apply Std.ExtTreeMap.ext_getElem?
  intro k
  simp only [Std.ExtTreeMap.getElem?_modify]
  split
  · rw [if_pos (Std.LawfulEqCmp.compare_eq_iff_eq.mpr rfl), Option.map_map]
    rfl
  · rfl

end Ordered

variable {α : Type} {table : Std.ExtTreeMap String α} {key : String} {a : α}
  {members : List (String × α)}

theorem lookup_eq_some_iff_mem (distinct : (members.map Prod.fst).Nodup) :
    members.lookup key = some a ↔ (key, a) ∈ members := by
  induction members with
  | nil => simp
  | cons entry members ih =>
    obtain ⟨k, b⟩ := entry
    obtain ⟨first, rest⟩ := List.nodup_cons.mp distinct
    rw [List.lookup_cons, List.mem_cons, Prod.mk.injEq]
    by_cases same : key = k
    · subst same
      have gone : (key, a) ∉ members := fun m => first (List.mem_map.mpr ⟨_, m, rfl⟩)
      simp [gone, eq_comm]
    · rw [beq_eq_false_iff_ne.mpr same]
      simp [same, ih rest]

theorem nodup_fst_toList : (table.toList.map Prod.fst).Nodup := by
  rw [Std.ExtTreeMap.map_fst_toList_eq_keys]
  exact Std.ExtTreeMap.nodup_keys

theorem lookup_toList : table.toList.lookup key = table[key]? := by
  ext a
  rw [lookup_eq_some_iff_mem nodup_fst_toList]
  exact Std.ExtTreeMap.mem_toList_iff_getElem?_eq_some

theorem getElem?_ofList (distinct : (members.map Prod.fst).Nodup) :
    (Std.ExtTreeMap.ofList members)[key]? = members.lookup key := by
  cases found : members.lookup key with
  | none =>
    apply Std.ExtTreeMap.getElem?_ofList_of_contains_eq_false
    rw [List.lookup_eq_none_iff] at found
    rw [List.contains_eq_any_beq, List.any_map, List.any_eq_false]
    exact fun entry m => by simpa using found entry m
  | some a =>
    have m := (lookup_eq_some_iff_mem distinct).mp found
    apply Std.ExtTreeMap.getElem?_ofList_of_mem (Std.LawfulEqCmp.compare_eq_iff_eq.mpr rfl) _ m
    rw [List.Nodup, List.pairwise_map] at distinct
    exact distinct.imp fun apart same => apart (Std.LawfulEqCmp.compare_eq_iff_eq.mp same)

theorem ofList_toList : Std.ExtTreeMap.ofList table.toList = table := by
  apply Std.ExtTreeMap.ext_getElem?
  intro key
  rw [getElem?_ofList nodup_fst_toList, lookup_toList]

theorem toList_ofList (ordered : members.Pairwise fun a b => compare a.1 b.1 = .lt) :
    (Std.ExtTreeMap.ofList members).toList = members := by
  have apart := nodup_of_ordered ordered
  apply toList_eq ordered
  intro key a
  rw [getElem?_ofList apart, lookup_eq_some_iff_mem apart]

namespace Json

variable {key : String} {members : List (String × Json)}

theorem member?_ofMembers (distinct : (members.map Prod.fst).Nodup) :
    (ofMembers members).member? key = members.lookup key := by
  rw [ofMembers, member?, lookup_toList, getElem?_ofList distinct]

theorem given?_ofMembers (distinct : (members.map Prod.fst).Nodup) :
    (ofMembers members).given? key = (members.lookup key).filter (! ·.isNull) := by
  rw [given?, member?_ofMembers distinct]

end Json

end SplitTest
