import SplitTest.Experiment.Encode
import SplitTest.Proofs.Experiment.Grammar

namespace SplitTest

namespace Json

theorem text_string (key s : String) : (string s).text key = .ok s := rfl

theorem traffic_ofInt (t : Int32) : (ofInt t.toInt).traffic = .ok t := by
  have least := t.minValue_le_toInt
  have most := t.toInt_le
  have wide : (Int64.ofInt t.toInt).toInt = t.toInt := by
    apply Int64.toInt_ofInt_of_le
    · exact Int.le_trans (by decide) least
    · exact Int.lt_of_le_of_lt most (by decide)
  rw [traffic_eq_ok_iff, SpellsTraffic, ofInt, integer?, wide]

theorem variants_toList (variants : Variants) :
    (object variants.toList).variants = .ok variants := by
  rw [Json.variants, ofList_toList]

end Json

namespace Experiment

def toDraft (e : Experiment) : Draft where
  name := e.name
  description := e.description
  variants := e.variants
  targetingRules := e.targetingRules
  traffic := e.traffic

def toChanges (e : Experiment) : Changes where
  description := e.description
  variants := e.variants
  targetingRules := e.targetingRules
  traffic := e.traffic

theorem apply_toChanges (e : Experiment) : e.toChanges.apply e = e := by
  simp [Changes.apply, toChanges]

theorem member?_toJson (e : Experiment) : e.toJson.member? "name" = some (.string e.name) ∧
    e.toJson.member? "description" = some (.ofOption .string e.description) ∧
    e.toJson.member? "variants" = some (.object e.variants.toList) ∧
    e.toJson.member? "targeting_rules" = some (e.targetingRules.getD .null) ∧
    e.toJson.member? "traffic_percentage" = some (.ofInt e.traffic.toInt) := by
  have there {key : String} {member : Json} (found : _ = some member) :
      e.toJson.member? key = some member := (Json.member?_ofMembers (by simp)).trans found
  exact ⟨there rfl, there rfl, there rfl, there rfl, there rfl⟩

variable {e : Experiment}

theorem description_toJson :
    e.toJson.optional "description" (·.text "description") = .ok e.description := by
  obtain ⟨-, description, -⟩ := e.member?_toJson
  rw [Json.optional, Json.given?, description]
  cases e.description <;> rfl

theorem variants_toJson : e.toJson.optional "variants" (·.variants) = .ok (some e.variants) := by
  obtain ⟨-, -, variants, -⟩ := e.member?_toJson
  rw [Json.optional, Json.given?, variants]
  exact congrArg (some <$> ·) (Json.variants_toList e.variants)

theorem traffic_toJson :
    e.toJson.optional "traffic_percentage" (·.traffic) = .ok (some e.traffic) := by
  obtain ⟨-, -, -, -, traffic⟩ := e.member?_toJson
  rw [Json.optional, Json.given?, traffic]
  exact congrArg (some <$> ·) (Json.traffic_ofInt e.traffic)

theorem given?_targetingRules (shown : e.targetingRules ≠ some .null) :
    e.toJson.given? "targeting_rules" = e.targetingRules := by
  obtain ⟨-, -, -, rules, -⟩ := e.member?_toJson
  rw [Json.given?, rules]
  cases given : e.targetingRules with
  | none => rfl
  | some j =>
    cases j with
    | null => exact absurd given shown
    | _ => rfl

theorem draft_ofJson_toJson (shown : e.targetingRules ≠ some .null) :
    Draft.ofJson e.toJson = .ok e.toDraft := by
  obtain ⟨name, -, variants, -, traffic⟩ := e.member?_toJson
  have rules := given?_targetingRules shown
  have description := description_toJson (e := e)
  obtain ⟨members, object⟩ : ∃ members, e.toJson = .object members := ⟨_, rfl⟩
  rw [object] at name variants traffic rules description ⊢
  simp only [Draft.ofJson, Json.readOr, name, variants, description, rules, traffic,
    Json.text_string, Json.variants_toList, Json.traffic_ofInt]
  rfl

theorem changes_ofJson_toJson (shown : e.targetingRules ≠ some .null) :
    Changes.ofJson e.toJson = .ok e.toChanges := by
  have rules := given?_targetingRules shown
  have description := description_toJson (e := e)
  have variants := variants_toJson (e := e)
  have traffic := traffic_toJson (e := e)
  obtain ⟨members, object⟩ : ∃ members, e.toJson = .object members := ⟨_, rfl⟩
  rw [object] at rules description variants traffic ⊢
  simp only [Changes.ofJson, rules, description, variants, traffic]
  rfl

end Experiment

end SplitTest
