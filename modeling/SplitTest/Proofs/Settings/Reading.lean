import SplitTest.Proofs.Experiment.Grammar
import SplitTest.Proofs.Settings.RoundTrip

namespace SplitTest

namespace Json

def Sets {α : Type} (key : String) (spells : Json → α → Prop) (default : α) (j : Json) (a : α) :
    Prop :=
  ∃ given, j.Carries key spells given ∧ a = given.getD default

def SpellsCount (j : Json) (n : UInt64) : Prop := j.integer? = some (n.toNat : Int)

inductive SpellsNumber : Json → Float → Prop
  | float (x : Float) : SpellsNumber (.float x) x
  | unsigned (n : UInt64) : SpellsNumber (.unsigned n) n.toFloat
  | signed (n : Int64) : SpellsNumber (.signed n) n.toFloat

def SpellsTruth (j : Json) (b : Bool) : Prop := j = .bool b

section Members

variable {α : Type} {key s : String} {j : Json} {a default : α} {b : Bool} {n least : UInt64}
  {x : Float} {read : Json → Option α} {spells : Json → α → Prop}

theorem float?_eq_some_iff : j.float? = some x ↔ j.SpellsNumber x := by
  constructor
  · cases j with
    | float => rintro ⟨⟩; exact .float _
    | unsigned => rintro ⟨⟩; exact .unsigned _
    | signed => rintro ⟨⟩; exact .signed _
    | _ => nofun
  · rintro ⟨⟩ <;> rfl

theorem string?_eq_some_iff : j.string? = some s ↔ j.SpellsText s := by
  cases j <;> simp [string?, SpellsText]

theorem bool?_eq_some_iff : j.bool? = some b ↔ j.SpellsTruth b := by
  cases j <;> simp [bool?, SpellsTruth]

theorem count?_eq_some_iff : j.count? = some n ↔ j.SpellsCount n ∧ n.toNat < 2 ^ 63 := by
  cases j with
  | unsigned m =>
    simp only [count?_unsigned, SpellsCount, integer?, Option.some.injEq, Int.natCast_inj,
      UInt64.toNat_inj]
    split
    case isTrue large =>
      refine iff_of_false (Option.some_ne_none n).symm ?_
      rintro ⟨rfl, small⟩
      omega
    case isFalse small =>
      simp only [Option.some.injEq, iff_self_and]
      rintro rfl
      omega
  | signed m =>
    have most := m.toInt_lt
    simp only [count?, SpellsCount, integer?, Option.some.injEq, Int64.lt_iff_toInt_lt,
      Int64.toInt_zero]
    split
    case isTrue negative =>
      refine iff_of_false (Option.some_ne_none n).symm ?_
      rintro ⟨value, -⟩
      omega
    case isFalse nonnegative =>
      have value : (m.toUInt64.toNat : Int) = m.toInt := toNat_toUInt64_of_le (by omega)
      rw [Option.some.injEq, ← UInt64.toNat_inj]
      omega
  | _ => simp [count?, SpellsCount, integer?]

theorem sets_iff : j.Sets key spells default a ↔ j.given? key = none ∧ a = default ∨
    ∃ member, j.given? key = some member ∧ spells member a := by
  constructor
  · rintro ⟨_ | b, carried, rfl⟩
    · exact .inl ⟨given?_eq_none_iff.mpr carried, rfl⟩
    · obtain ⟨member, there, shown, spelled⟩ := carried
      exact .inr ⟨member, given?_eq_some_iff.mpr ⟨there, shown⟩, spelled⟩
  · rintro (⟨blank, rfl⟩ | ⟨member, given, spelled⟩)
    · exact ⟨none, given?_eq_none_iff.mp blank, rfl⟩
    · obtain ⟨there, shown⟩ := given?_eq_some_iff.mp given
      exact ⟨some a, ⟨member, there, shown, spelled⟩, rfl⟩

theorem setting_eq_ok_iff (reads : ∀ {member b}, read member = some b ↔ spells member b) :
    j.setting key read default = .ok a ↔ j.Sets key spells default a := by
  rw [setting, sets_iff]
  cases j.given? key with
  | none => simp [eq_comm]
  | some member => cases outcome : read member <;> simp [← reads, outcome]

theorem count_eq_ok_iff (small : least.toNat < 2 ^ 63) :
    j.count key least = .ok n ↔ j.Sets key SpellsCount least n ∧ n.toNat < 2 ^ 63 := by
  rw [count, sets_iff]
  cases j.given? key with
  | none =>
    simp only [Except.ok.injEq, true_and, reduceCtorEq, false_and, exists_false, or_false]
    constructor
    · rintro rfl
      exact ⟨rfl, small⟩
    · exact fun kept => kept.1.symm
  | some member =>
    simp only [Option.some.injEq, reduceCtorEq, false_and, false_or, exists_eq_left',
      ← count?_eq_some_iff]
    cases member.count? <;> simp

end Members

end Json

namespace Settings

variable {j : Json} {s : Settings}

structure Reads (j : Json) (s : Settings) : Prop where
  defaultConfidence : j.Sets "default_confidence_level" Json.SpellsNumber 0.95 s.defaultConfidence
  minConfidence : j.Sets "min_confidence_level" Json.SpellsNumber 0.5 s.minConfidence
  maxConfidence : j.Sets "max_confidence_level" Json.SpellsNumber 0.99 s.maxConfidence
  minSubjects : j.Sets "min_subjects_per_variant" Json.SpellsCount 2 s.minSubjects
  pValueFloor : j.Sets "p_value_floor" Json.SpellsNumber 1e-10 s.pValueFloor
  listLimit : j.Sets "default_list_limit" Json.SpellsCount 50 s.listLimit
  maxNameLength : j.Sets "max_name_length" Json.SpellsCount 255 s.maxNameLength
  controlVariant : j.Sets "control_variant" Json.SpellsText "control" s.controlVariant
  allowUnscoped : j.Sets "allow_unscoped_flag_lookup" Json.SpellsTruth true s.allowUnscoped
  scanLimit : j.Sets "unscoped_scan_limit" Json.SpellsCount 1000 s.scanLimit

def Small (s : Settings) : Prop := ∀ count ∈ s.counts, count.2.toNat < 2 ^ 63

theorem fields_eq_ok_iff : fields j = .ok s ↔ Reads j s ∧ s.Small := by
  simp only [fields, bind_eq_ok_iff, Json.setting_eq_ok_iff Json.float?_eq_some_iff,
    Json.setting_eq_ok_iff Json.string?_eq_some_iff, Json.setting_eq_ok_iff Json.bool?_eq_some_iff,
    Json.count_eq_ok_iff (show (2 : UInt64).toNat < 2 ^ 63 by decide),
    Json.count_eq_ok_iff (show (50 : UInt64).toNat < 2 ^ 63 by decide),
    Json.count_eq_ok_iff (show (255 : UInt64).toNat < 2 ^ 63 by decide),
    Json.count_eq_ok_iff (show (1000 : UInt64).toNat < 2 ^ 63 by decide),
    Small, counts, List.forall_mem_cons, pure, Except.pure, Except.ok.injEq]
  constructor
  · rintro ⟨_, defaultConfidence, _, minConfidence, _, maxConfidence, _, ⟨minSubjects, few⟩, _,
      pValueFloor, _, ⟨listLimit, short⟩, _, ⟨maxNameLength, brief⟩, _, controlVariant, _,
      allowUnscoped, _, ⟨scanLimit, narrow⟩, rfl⟩
    exact ⟨⟨defaultConfidence, minConfidence, maxConfidence, minSubjects, pValueFloor, listLimit,
      maxNameLength, controlVariant, allowUnscoped, scanLimit⟩, few, short, brief, narrow,
      List.forall_mem_nil _⟩
  · rintro ⟨reads, few, short, brief, narrow, -⟩
    exact ⟨_, reads.defaultConfidence, _, reads.minConfidence, _, reads.maxConfidence, _,
      ⟨reads.minSubjects, few⟩, _, reads.pValueFloor, _, ⟨reads.listLimit, short⟩, _,
      ⟨reads.maxNameLength, brief⟩, _, reads.controlVariant, _, reads.allowUnscoped, _,
      ⟨reads.scanLimit, narrow⟩, rfl⟩

theorem check_eq_ok_iff {t : Settings} : s.check = .ok t ↔ s = t ∧ s.flaw? = none := by
  rw [check]
  cases s.flaw? <;> simp

theorem ofJson_eq_ok_iff :
    ofJson j = .ok s ↔ j.IsObject ∧ Reads j s ∧ s.Small ∧ s.flaw? = none := by
  cases j with
  | object members =>
    simp only [ofJson, bind_eq_ok_iff, fields_eq_ok_iff, check_eq_ok_iff]
    constructor
    · rintro ⟨_, ⟨reads, small⟩, rfl, sound⟩
      exact ⟨⟨members, rfl⟩, reads, small, sound⟩
    · rintro ⟨-, reads, small, sound⟩
      exact ⟨s, ⟨reads, small⟩, rfl, sound⟩
  | _ => exact iff_of_false nofun fun ⟨⟨_, isObject⟩, _⟩ => nomatch isObject

def keys : List String :=
  ["default_confidence_level", "min_confidence_level", "max_confidence_level",
    "min_subjects_per_variant", "p_value_floor", "default_list_limit", "max_name_length",
    "control_variant", "allow_unscoped_flag_lookup", "unscoped_scan_limit"]

theorem ofJson_congr {members members' : List (String × Json)}
    (same : ∀ key ∈ keys,
      (Json.object members).given? key = (Json.object members').given? key) :
    ofJson (.object members) = ofJson (.object members') := by
  simp only [keys, List.forall_mem_cons] at same
  obtain ⟨defaultConfidence, minConfidence, maxConfidence, minSubjects, pValueFloor, listLimit,
    maxNameLength, controlVariant, allowUnscoped, scanLimit, -⟩ := same
  simp only [ofJson, fields, Json.setting, Json.count, defaultConfidence, minConfidence,
    maxConfidence, minSubjects, pValueFloor, listLimit, maxNameLength, controlVariant,
    allowUnscoped, scanLimit]

/-- A value is refused, or it is read as sound settings that its members spell. Those are all the
settings that are read, and neither other members nor null ones matter. -/
theorem ofJson_sound (j : Json) :
    ((∃ cause, ofJson j = .error cause) ∨
      ∃ s, ofJson j = .ok s ∧ s.flaw? = none ∧ Reads j s) ∧
    (∀ s, ofJson j = .ok s ↔ j.IsObject ∧ Reads j s ∧ s.Small ∧ s.flaw? = none) ∧
    ∀ members members', j = .object members →
      (∀ key ∈ keys, (Json.object members).given? key = (Json.object members').given? key) →
      ofJson (.object members') = ofJson j := by
  refine ⟨?_, fun _ => ofJson_eq_ok_iff, ?_⟩
  · cases outcome : ofJson j with
    | error cause => exact .inl ⟨cause, rfl⟩
    | ok s =>
      obtain ⟨-, reads, -, sound⟩ := ofJson_eq_ok_iff.mp outcome
      exact .inr ⟨s, rfl, sound, reads⟩
  · rintro members members' rfl same
    exact (ofJson_congr same).symm

theorem ofJson_sound_signed :
    let members : List (String × Json) := [("default_list_limit", .signed 7)]
    let others : List (String × Json) :=
      [("control_variant", .null), ("default_list_limit", .signed 7), ("weight", .bool true)]
    (∀ key ∈ keys, (Json.object members).given? key = (Json.object others).given? key) ∧
      ofJson (.object others) = .ok { listLimit := 7 } := by
  intro members others
  have same : ∀ key ∈ keys,
      (Json.object members).given? key = (Json.object others).given? key := by
    simp only [keys, List.forall_mem_cons]
    exact ⟨rfl, rfl, rfl, rfl, rfl, rfl, rfl, rfl, rfl, rfl, nofun⟩
  obtain ⟨-, -, alike⟩ := ofJson_sound (.object members)
  refine ⟨same, (alike members others rfl same).trans ?_⟩
  rfl

end Settings

end SplitTest
