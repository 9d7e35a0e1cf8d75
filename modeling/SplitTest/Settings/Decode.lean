import SplitTest.Json.Parser
import SplitTest.Settings

namespace SplitTest

namespace Json

def setting {α : Type} (key : String) (read : Json → Option α) (default : α) (j : Json) :
    Except Invalid α :=
  match j.given? key with
  | none => .ok default
  | some member =>
    match read member with
    | some a => .ok a
    | none => .error (.settingType key)

/-- A count below half the range of 64 bits: an integer is taken for negative if its highest bit
is set. -/
def count? : Json → Option UInt64
  | unsigned n => if n.toInt64 < 0 then none else some n
  | signed n => if n < 0 then none else some n.toUInt64
  | _ => none

def count (key : String) (default : UInt64) (j : Json) : Except Invalid UInt64 :=
  match j.given? key with
  | none => .ok default
  | some member =>
    match member.count? with
    | some n => .ok n
    | none => .error (.settingCount key)

end Json

namespace Settings

def fields (j : Json) : Except Invalid Settings := do
  let s : Settings := {}
  let defaultConfidence ← j.setting "default_confidence_level" Json.float? s.defaultConfidence
  let minConfidence ← j.setting "min_confidence_level" Json.float? s.minConfidence
  let maxConfidence ← j.setting "max_confidence_level" Json.float? s.maxConfidence
  let minSubjects ← j.count "min_subjects_per_variant" s.minSubjects
  let pValueFloor ← j.setting "p_value_floor" Json.float? s.pValueFloor
  let listLimit ← j.count "default_list_limit" s.listLimit
  let maxNameLength ← j.count "max_name_length" s.maxNameLength
  let controlVariant ← j.setting "control_variant" Json.string? s.controlVariant
  let allowUnscoped ← j.setting "allow_unscoped_flag_lookup" Json.bool? s.allowUnscoped
  let scanLimit ← j.count "unscoped_scan_limit" s.scanLimit
  return { defaultConfidence, minConfidence, maxConfidence, minSubjects, pValueFloor, listLimit,
           maxNameLength, controlVariant, allowUnscoped, scanLimit }

def ofJson (j : Json) : Except Invalid Settings :=
  match j with
  | .object _ => fields j >>= check
  | _ => .error .settingsNotObject

def toJson (s : Settings) : Json :=
  .ofMembers [
    ("default_confidence_level", .float s.defaultConfidence),
    ("min_confidence_level", .float s.minConfidence),
    ("max_confidence_level", .float s.maxConfidence),
    ("min_subjects_per_variant", .unsigned s.minSubjects),
    ("p_value_floor", .float s.pValueFloor),
    ("default_list_limit", .unsigned s.listLimit),
    ("max_name_length", .unsigned s.maxNameLength),
    ("control_variant", .string s.controlVariant),
    ("allow_unscoped_flag_lookup", .bool s.allowUnscoped),
    ("unscoped_scan_limit", .unsigned s.scanLimit)]

def load (path : String) (contents : Option String) : Except Invalid Settings :=
  match contents with
  | none => .error (.settingsMissing path)
  | some text =>
    match Json.parse? text with
    | none => .error (.settingsMalformed path)
    | some j => ofJson j

end Settings

end SplitTest
