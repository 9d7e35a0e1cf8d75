import SplitTest.Lifecycle

namespace SplitTest.Lifecycle

@[simp] theorem andThen_eq_ok {check check' : Outcome Unit} :
    (do check; check') = .ok () ↔ check = .ok () ∧ check' = .ok () := by
  cases check <;> simp [bind, Except.bind]

theorem checkVariants_eq_ok {variants : Variants} : checkVariants variants = .ok () ↔
    2 ≤ variants.size ∧ "" ∉ variants := by
  have unnamed : variants.names.any String.isEmpty = true ↔ "" ∈ variants := by
    simp [Variants.names]
  unfold checkVariants
  split
  case isTrue few =>
    apply iff_of_false nofun
    rintro ⟨enough, -⟩
    exact absurd few (Nat.not_lt_of_le enough)
  case isFalse many =>
    have enough := Nat.le_of_not_lt many
    split
    case isTrue named => exact iff_of_false nofun fun shown => shown.2 (unnamed.mp named)
    case isFalse named => exact iff_of_true rfl ⟨enough, fun m => named (unnamed.mpr m)⟩

theorem checkTraffic_eq_ok {traffic : Int32} : checkTraffic traffic = .ok () ↔
    1 ≤ traffic ∧ traffic ≤ 100 := by
  have outside : (traffic < 1 ∨ 100 < traffic) ↔ ¬ (1 ≤ traffic ∧ traffic ≤ 100) := by
    rw [Decidable.not_and_iff_not_or_not, Int32.not_le, Int32.not_le]
  unfold checkTraffic
  split <;> simp_all

theorem checkDraft_eq_ok {settings : Settings} {draft : Draft} :
    checkDraft settings draft = .ok () ↔ draft.name ≠ "" ∧
      draft.name.utf8ByteSize ≤ settings.maxNameLength.toNat ∧
        checkVariants draft.variants = .ok () ∧ checkTraffic draft.traffic = .ok () := by
  unfold checkDraft
  by_cases unnamed : draft.name = ""
  · simp [unnamed, bind, Except.bind, throw, throwThe, MonadExceptOf.throw]
  · by_cases long : settings.maxNameLength.toNat < draft.name.utf8ByteSize
    · have outside := Nat.not_le_of_lt long
      simp [unnamed, long, outside, bind, Except.bind, throw, throwThe, MonadExceptOf.throw]
    · have inside := Nat.le_of_not_lt long
      simp [unnamed, long, inside]

theorem checkChanges_eq_ok {changes : Changes} : checkChanges changes = .ok () ↔
    (∀ variants ∈ changes.variants, checkVariants variants = .ok ()) ∧
      ∀ traffic ∈ changes.traffic, checkTraffic traffic = .ok () := by
  unfold checkChanges
  cases changes.variants <;> cases changes.traffic
  all_goals simp [Option.forM, pure, Except.pure]

section Refusals

variable {err : Error}

theorem checkVariants_kind {variants : Variants}
    (refused : checkVariants variants = .error err) : err.kind = .validation := by
  unfold checkVariants at refused
  split at refused
  · cases refused
    rfl
  · split at refused
    · cases refused
      rfl
    · cases refused

theorem checkTraffic_kind {traffic : Int32}
    (refused : checkTraffic traffic = .error err) : err.kind = .validation := by
  unfold checkTraffic at refused
  split at refused
  · cases refused
    rfl
  · cases refused

theorem checkChanges_kind {changes : Changes} (refused : checkChanges changes = .error err) :
    err.kind = .validation := by
  have both : (do changes.variants.forM checkVariants; changes.traffic.forM checkTraffic) =
      Except.error err := refused
  cases first : changes.variants.forM checkVariants with
  | error cause =>
    rw [first] at both
    cases both
    cases given : changes.variants with
    | none =>
      rw [given] at first
      cases first
    | some variants =>
      rw [given] at first
      exact checkVariants_kind first
  | ok =>
    rw [first] at both
    cases given : changes.traffic with
    | none =>
      rw [given] at both
      cases both
    | some traffic =>
      rw [given] at both
      exact checkTraffic_kind both

end Refusals

end SplitTest.Lifecycle
