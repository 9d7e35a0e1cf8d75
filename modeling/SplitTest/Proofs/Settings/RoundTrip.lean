import Mathlib.Data.UInt
import Mathlib.Tactic.SplitIfs
import SplitTest.Proofs.Table
import SplitTest.Settings.Decode

/-!
Settings written as a structured value and read back. They come back as they are, unless a count is
so large that its highest bit is taken for a sign; then the first such count is refused.
-/

namespace SplitTest

namespace Json

variable {key : String} {j : Json} {default n : UInt64}

theorem count?_unsigned : (unsigned n).count? = if 2 ^ 63 ≤ n.toNat then none else some n := by
  have sign : n.toInt64 < 0 ↔ 2 ^ 63 ≤ n.toNat := by
    have value : n.toInt64.toInt = n.toBitVec.toInt := rfl
    have small := n.toNat_lt
    rw [Int64.lt_iff_toInt_lt, value, BitVec.toInt_eq_toNat_cond, UInt64.toNat_toBitVec,
      Int64.toInt_zero]
    split_ifs <;> omega
  simp only [count?, sign]

theorem count_given (given : j.given? key = some (.unsigned n)) :
    j.count key default =
      if 2 ^ 63 ≤ n.toNat then .error (.settingCount key) else .ok n := by
  simp only [count, given, count?_unsigned]
  split_ifs <;> rfl

end Json

namespace Settings

def counts (s : Settings) : List (String × UInt64) :=
  [("min_subjects_per_variant", s.minSubjects), ("default_list_limit", s.listLimit),
    ("max_name_length", s.maxNameLength), ("unscoped_scan_limit", s.scanLimit)]

theorem fields_toJson (s : Settings) : fields s.toJson =
    match s.counts.find? fun count => 2 ^ 63 ≤ count.2.toNat with
    | some (key, _) => .error (.settingCount key)
    | none => .ok s := by
  have given {key : String} {member : Json} (there : _ = some member) :
      s.toJson.given? key = some member := (Json.given?_ofMembers (by simp)).trans there
  have defaultConfidence : s.toJson.given? "default_confidence_level" = some _ := given rfl
  have minConfidence : s.toJson.given? "min_confidence_level" = some _ := given rfl
  have maxConfidence : s.toJson.given? "max_confidence_level" = some _ := given rfl
  have minSubjects : s.toJson.given? "min_subjects_per_variant" = some _ := given rfl
  have pValueFloor : s.toJson.given? "p_value_floor" = some _ := given rfl
  have listLimit : s.toJson.given? "default_list_limit" = some _ := given rfl
  have maxNameLength : s.toJson.given? "max_name_length" = some _ := given rfl
  have controlVariant : s.toJson.given? "control_variant" = some _ := given rfl
  have allowUnscoped : s.toJson.given? "allow_unscoped_flag_lookup" = some _ := given rfl
  have scanLimit : s.toJson.given? "unscoped_scan_limit" = some _ := given rfl
  simp only [fields, Json.setting, defaultConfidence, minConfidence, maxConfidence, pValueFloor,
    controlVariant, allowUnscoped, Json.float?, Json.string?, Json.bool?,
    Json.count_given minSubjects, Json.count_given listLimit, Json.count_given maxNameLength,
    Json.count_given scanLimit, counts, List.find?_cons]
  by_cases subjects : 2 ^ 63 ≤ s.minSubjects.toNat
  · simp only [subjects, decide_true, if_true]
    rfl
  by_cases list : 2 ^ 63 ≤ s.listLimit.toNat
  · simp only [subjects, list, decide_true, decide_false, if_true, if_false]
    rfl
  by_cases name : 2 ^ 63 ≤ s.maxNameLength.toNat
  · simp only [subjects, list, name, decide_true, decide_false, if_true, if_false]
    rfl
  by_cases scan : 2 ^ 63 ≤ s.scanLimit.toNat
  · simp only [subjects, list, name, scan, decide_true, decide_false, if_true, if_false]
    rfl
  · simp only [subjects, list, name, scan, decide_false, if_false]
    rfl

theorem ofJson_toJson (s : Settings) : ofJson s.toJson = fields s.toJson >>= check := rfl

/-- Sound settings whose counts are all below `2 ^ 63` come back as they are. Of other counts the
first one is refused. -/
theorem read_back (s : Settings) (valid : s.flaw? = none) :
    ofJson s.toJson =
      match s.counts.find? fun count => 2 ^ 63 ≤ count.2.toNat with
      | some (key, _) => .error (.settingCount key)
      | none => .ok s := by
  have sound : s.check = .ok s := by simp only [check, valid]
  rw [ofJson_toJson, fields_toJson]
  split
  · rfl
  · exact sound

theorem read_back_largest :
    let s : Settings := { minSubjects := 2 ^ 63 - 1, listLimit := 2 ^ 63 - 1,
                          maxNameLength := 2 ^ 63 - 1, scanLimit := 2 ^ 63 - 1 }
    s.flaw? = none ∧ ofJson s.toJson = .ok s := by
  intro s
  have valid : s.flaw? = none := by decide +kernel
  have small : (s.counts.find? fun count => 2 ^ 63 ≤ count.2.toNat) = none := by decide +kernel
  have back := read_back s valid
  rw [small] at back
  exact ⟨valid, back⟩

/-- Sound settings with finite numbers. A limit of listings of `2 ^ 63` is refused as if it were
negative. -/
theorem large_count_is_refused :
    let s : Settings := { listLimit := 2 ^ 63 }
    s.flaw? = none ∧ s.defaultConfidence.isFinite = true ∧ s.minConfidence.isFinite = true ∧
      s.maxConfidence.isFinite = true ∧ s.pValueFloor.isFinite = true ∧
      ofJson s.toJson = .error (.settingCount "default_list_limit") ∧ ofJson s.toJson ≠ .ok s := by
  intro s
  have large : (s.counts.find? fun count => 2 ^ 63 ≤ count.2.toNat) =
      some ("default_list_limit", s.listLimit) := by decide +kernel
  have refused : ofJson s.toJson = .error (.settingCount "default_list_limit") := by
    rw [ofJson_toJson, fields_toJson, large]
    rfl
  refine ⟨?_, ?_, ?_, ?_, ?_, refused, ?_⟩
  case refine_6 => rw [refused]; exact nofun
  all_goals decide +kernel

end Settings

end SplitTest
