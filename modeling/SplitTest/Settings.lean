import SplitTest.Invalid

namespace SplitTest

structure Settings where
  defaultConfidence : Float := 0.95
  minConfidence : Float := 0.5
  maxConfidence : Float := 0.99
  minSubjects : UInt64 := 2
  pValueFloor : Float := 1e-10
  listLimit : UInt64 := 50
  maxNameLength : UInt64 := 255
  controlVariant : String := "control"
  allowUnscoped : Bool := true
  scanLimit : UInt64 := 1000

namespace Settings

/-- The first flaw, if there is one. A default confidence that is no number compares with neither
bound, and passes. -/
def flaw? (s : Settings) : Option Invalid :=
  if ¬ (s.minConfidence > 0 ∧ s.minConfidence ≤ s.maxConfidence ∧ s.maxConfidence < 1) then
    some .confidenceBounds
  else if s.defaultConfidence < s.minConfidence ∨ s.defaultConfidence > s.maxConfidence then
    some .defaultConfidence
  else if s.minSubjects < 2 then some .fewSubjects
  else if ¬ (s.pValueFloor > 0 ∧ s.pValueFloor < 1) then some .pValueFloor
  else if s.listLimit = 0 then some .listLimit
  else if s.scanLimit = 0 then some .scanLimit
  else if s.maxNameLength = 0 then some .nameLength
  else if s.controlVariant.isEmpty then some .controlVariant
  else none

def check (s : Settings) : Except Invalid Settings :=
  match s.flaw? with
  | some flaw => .error flaw
  | none => .ok s

end Settings

end SplitTest
