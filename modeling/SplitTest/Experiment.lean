import SplitTest.Invalid
import SplitTest.Json
import SplitTest.Timestamp
import SplitTest.Uuid

namespace SplitTest

inductive Status where
  | draft
  | running
  | paused
  | completed
deriving DecidableEq, Repr, Inhabited

namespace Status

def name : Status → String
  | draft => "draft"
  | running => "running"
  | paused => "paused"
  | completed => "completed"

instance : ToString Status := ⟨name⟩

def all : List Status := [draft, running, paused, completed]

def parse (text : String) : Except Invalid Status :=
  match all.find? (·.name = text) with
  | some status => .ok status
  | none => .error (.status text)

def index (status : Status) : Nat := all.idxOf status

def nameAt (place : Int) : String :=
  match place.toNat?.bind (all[·]?) with
  | some status => status.name
  | none => "unknown"

@[simp] theorem parse_name (status : Status) : parse status.name = .ok status := by
  cases status <;> rfl

end Status

abbrev Variants := Std.ExtTreeMap String Json

def Variants.names (variants : Variants) : List String := variants.keys

structure Experiment where
  id : Uuid
  organization : Uuid
  name : String
  description : Option String := none
  status : Status := .draft
  variants : Variants := {}
  targetingRules : Option Json := none
  traffic : Int32 := 100
  startedAt : Option Timestamp := none
  endedAt : Option Timestamp := none
  createdAt : Timestamp := ⟨0⟩
  updatedAt : Timestamp := ⟨0⟩

structure Draft where
  name : String
  description : Option String := none
  variants : Variants := {}
  targetingRules : Option Json := none
  traffic : Int32 := 100

structure Changes where
  description : Option String := none
  variants : Option Variants := none
  targetingRules : Option Json := none
  traffic : Option Int32 := none

namespace Changes

def isEmpty (changes : Changes) : Bool :=
  changes.description.isNone && changes.variants.isNone && changes.targetingRules.isNone &&
    changes.traffic.isNone

def apply (changes : Changes) (e : Experiment) : Experiment :=
  { e with
    description := changes.description.or e.description
    variants := changes.variants.getD e.variants
    targetingRules := changes.targetingRules.or e.targetingRules
    traffic := changes.traffic.getD e.traffic }

end Changes

structure Assignment where
  experiment : Uuid
  subject : Uuid
  variant : String
  assignedAt : Timestamp := ⟨0⟩
deriving DecidableEq

structure Observation where
  experiment : Uuid
  subject : Uuid
  metric : String
  value : Float
  recordedAt : Timestamp := ⟨0⟩

end SplitTest
