import SplitTest.Experiment

namespace SplitTest

namespace Json

def text (key : String) : Json → Except Invalid String
  | string s => .ok s
  | _ => .error (.notText key)

def variants : Json → Except Invalid Variants
  | object members => .ok (Std.ExtTreeMap.ofList members)
  | _ => .error .variantsNotObject

def traffic : Json → Except Invalid Int32
  | unsigned n =>
    if Int32.maxValue.toInt64.toUInt64 < n then .error .trafficOutOfRange
    else .ok n.toUInt32.toInt32
  | signed n =>
    if n < Int32.minValue.toInt64 ∨ Int32.maxValue.toInt64 < n then .error .trafficOutOfRange
    else .ok n.toInt32
  | _ => .error .trafficNotInteger

def status (j : Json) : Except Invalid Status := do
  Status.parse (← j.text "status")

def optional {α : Type} (key : String) (read : Json → Except Invalid α) (j : Json) :
    Except Invalid (Option α) :=
  match j.given? key with
  | some member => some <$> read member
  | none => .ok none

def readOr {α : Type} (key : String) (default : α) (read : Json → Except Invalid α) (j : Json) :
    Except Invalid α :=
  match j.member? key with
  | some member => read member
  | none => .ok default

end Json

def Draft.ofJson (j : Json) : Except Invalid Draft :=
  match j with
  | .object _ => do
    let some name := j.member? "name" | .error (.definitionLacks "name")
    let some variants := j.member? "variants" | .error (.definitionLacks "variants")
    let name ← name.text "name"
    let variants ← variants.variants
    let description ← j.optional "description" (·.text "description")
    let traffic ← j.readOr "traffic_percentage" 100 (·.traffic)
    return { name, description, variants, targetingRules := j.given? "targeting_rules", traffic }
  | _ => .error .definitionNotObject

def Changes.ofJson (j : Json) : Except Invalid Changes :=
  match j with
  | .object _ => do
    let description ← j.optional "description" (·.text "description")
    let variants ← j.optional "variants" (·.variants)
    let traffic ← j.optional "traffic_percentage" (·.traffic)
    return { description, variants, targetingRules := j.given? "targeting_rules", traffic }
  | _ => .error .changesNotObject

end SplitTest
