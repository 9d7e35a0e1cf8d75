import SplitTest.Flag
import SplitTest.Proofs.Service.Still
import SplitTest.Proofs.Store.Listing

namespace SplitTest

namespace Flag

variable {base : Store} {settings : Settings} {flag : String} {organization : Option Uuid}
  {troubled : Prop} {w : Workplace} {e : Experiment}

def target? (settings : Settings) (flag : String) (organization : Option Uuid) (s : Store) :
    Option Experiment :=
  match organization with
  | some organization =>
    (s.experimentByName flag organization).toOption.join.filter (·.status = .running)
  | none =>
    if settings.allowUnscoped then (s.listing none (some .running)).find? (·.name = flag) else none

structure Carries (s : Store) (flag : String) (organization : Option Uuid) (e : Experiment) :
    Prop where
  stored : s.experimentById e.id = some e
  running : e.status = .running
  name : e.name = flag
  organization : ∀ o, organization = some o → e.organization = o

section Pages

variable {α : Type} {p : α → Bool} {l : List α} {offset n : Nat}

theorem find?_page (before : (l.take offset).find? p = none) : l.find? p =
    (((l.drop offset).take n).find? p).or ((l.drop (offset + n)).find? p) := by
  calc
    l.find? p = (l.take offset ++ l.drop offset).find? p := by rw [List.take_append_drop]
    _ = (l.drop offset).find? p := by rw [List.find?_append, before, Option.none_or]
    _ = ((l.drop offset).take n ++ (l.drop offset).drop n).find? p := by
      rw [List.take_append_drop]
    _ = _ := by rw [List.find?_append, List.drop_drop]

theorem find?_pages (before : (l.take offset).find? p = none)
    (here : ((l.drop offset).take n).find? p = none) :
    (l.take (offset + n)).find? p = none := by
  rw [List.take_add, List.find?_append, before, here, Option.none_or]

end Pages

theorem lt_add_iff {offset size : UInt64} (positive : size ≠ 0) :
    offset < offset + size ↔ offset.toNat + size.toNat < UInt64.size := by
  have nonzero : size.toNat ≠ 0 := by
    intro zero
    exact positive (UInt64.toNat_inj.mp zero)
  have small := size.toNat_lt
  have small' := offset.toNat_lt
  simp only [UInt64.lt_iff_toNat_lt, UInt64.toNat_add, UInt64.size]
  omega

theorem scan_runs {size offset : UInt64} {l : List Experiment} (still : w.Still troubled base)
    (listed : base.listing none (some .running) = l) (positive : size ≠ 0)
    (crowded : UInt64.size ≤ l.length → troubled)
    (before : (l.take offset.toNat).find? (·.name = flag) = none) :
    Operation.Runs troubled base (fun _ => l.find? (·.name = flag) = none ∨ troubled)
      (fun e w => l.find? (·.name = flag) = some e ∧ w.Still troubled base)
      (scan flag size offset) w := by
  induction offset using scan.induct size generalizing w with
  | case1 offset ih =>
    have split := find?_page (n := size.toNat) before
    have told : base.listExperiments none (some .running) size offset =
        (l.drop offset.toNat).take size.toNat := by
      rw [Store.listExperiments, listed]
    rw [scan]
    apply Operation.Runs.bind
    apply Operation.Runs.call still rfl rfl
    intro w still
    rw [told]
    cases here : ((l.drop offset.toNat).take size.toNat).find? (·.name = flag) with
    | some e =>
      rw [here, Option.some_or] at split
      exact .pure ⟨split, still⟩
    | none =>
      rw [here, Option.none_or] at split
      simp only [List.length_take, List.length_drop]
      split
      case isTrue short =>
        have beyond : l.drop (offset.toNat + size.toNat) = [] := by
          apply List.drop_eq_nil_of_le
          omega
        rw [beyond, List.find?_nil] at split
        exact .throw still (.inl split)
      case isFalse full =>
        split
        case isTrue fits =>
          have next : (offset + size).toNat = offset.toNat + size.toNat := by
            have room := (lt_add_iff positive).mp fits
            rw [UInt64.toNat_add]
            exact Nat.mod_eq_of_lt room
          apply ih [] fits still
          rw [next]
          exact find?_pages before here
        case isFalse wraps =>
          rw [lt_add_iff positive] at wraps
          have nonzero : size.toNat ≠ 0 := fun zero => positive (UInt64.toNat_inj.mp zero)
          apply Operation.Runs.throw still
          right
          apply crowded
          omega

variable (flag organization) in
theorem find_runs (still : w.Still troubled base) (sound : base.Sound)
    (paged : settings.scanLimit ≠ 0) (crowded : UInt64.size ≤ base.experiments.size → troubled) :
    Operation.Runs troubled base (fun _ => target? settings flag organization base = none ∨ troubled)
      (fun e w => target? settings flag organization base = some e ∧ w.Still troubled base)
      (find settings flag organization) w := by
  cases organization with
  | some organization =>
    obtain ⟨found, told, -⟩ := sound.experimentByName flag organization
    have answer : (Call.experimentByName flag organization).perform base = (.ok found, base) := by
      rw [Call.perform, told]
    have target : target? settings flag (some organization) base =
        found.filter (·.status = .running) := by
      rw [target?, told]
      rfl
    rw [target]
    apply Operation.Runs.bind
    apply Operation.Runs.call still answer rfl
    intro w still
    cases found with
    | none => exact .throw still (.inl rfl)
    | some e =>
      dsimp only
      split
      case isTrue running => exact .pure ⟨by simp [running], still⟩
      case isFalse idle => exact .throw still (.inl (by simp [idle]))
  | none =>
    unfold find
    dsimp only
    split
    case isTrue denied =>
      rw [Bool.not_eq_true'] at denied
      exact .throw still (.inl (by simp [target?, denied]))
    case isFalse allowed =>
      have target : target? settings flag none base =
          (base.listing none (some .running)).find? (·.name = flag) := by
        rw [Bool.not_eq_true', Bool.not_eq_false] at allowed
        simp only [target?, allowed, if_true]
      rw [target]
      apply Operation.Runs.bind
      apply Operation.Runs.report still
      intro w still
      apply scan_runs still rfl paged
      · intro crowd
        exact crowded (Nat.le_trans crowd Store.length_listing_le)
      · rfl

theorem carries_of_target (built : base.Built)
    (target : target? settings flag organization base = some e) :
    Carries base flag organization e := by
  have own {id : Uuid} (stored : base.experimentById id = some e) :
      base.experimentById e.id = some e := by
    rw [built.keyed.experiments stored, stored]
  cases organization with
  | some organization =>
    obtain ⟨found, told, named⟩ := built.sound.experimentByName flag organization
    simp only [target?, told] at target
    obtain ⟨same, running⟩ := Option.filter_eq_some_iff.mp target
    have same : found = some e := same
    subst same
    obtain ⟨id, stored⟩ := Store.experimentByName_stored told
    obtain ⟨scope, name⟩ := Prod.mk.inj (named e rfl)
    exact ⟨own stored, by simpa using running, name, fun o given => by cases given; exact scope⟩
  | none =>
    cases allowed : settings.allowUnscoped with
    | false => simp [target?, allowed] at target
    | true =>
      simp only [target?, allowed, if_true] at target
      have name := List.find?_some target
      obtain ⟨⟨id, stored⟩, listed⟩ := Store.mem_listing.mp (List.mem_of_find?_eq_some target)
      have running : e.status = .running := by
        simpa [Store.isListed, eq_comm] using listed
      exact ⟨own stored, running, by simpa using name, nofun⟩

theorem target?_eq_none (indexed : ∀ o, organization = some o → base.Indexed)
    (nothing : target? settings flag organization base = none) :
    organization = none ∧ settings.allowUnscoped = false ∨
      ∀ e, ¬ Carries base flag organization e := by
  cases organization with
  | some organization =>
    right
    intro e carries
    have told := (indexed organization rfl).experimentByName carries.stored
    rw [carries.name, carries.organization organization rfl] at told
    simp [target?, told, Except.toOption, carries.running] at nothing
  | none =>
    cases allowed : settings.allowUnscoped with
    | false => exact .inl ⟨rfl, rfl⟩
    | true =>
      right
      intro e carries
      simp only [target?, allowed, if_true] at nothing
      have listed : e ∈ base.listing none (some .running) := by
        apply Store.mem_listing.mpr
        exact ⟨⟨e.id, carries.stored⟩, by simp [Store.isListed, carries.running]⟩
      have other := List.find?_eq_none.mp nothing e listed
      exact other (by simp [carries.name])

end Flag

end SplitTest
