import SplitTest.Digest
import SplitTest.Program

namespace SplitTest

namespace Bucket

def trafficKey (experiment subject : Uuid) : String := s!"traffic:{experiment}:{subject}"

def variantKey (experiment subject : Uuid) : String := s!"{experiment}:{subject}"

def traffic (experiment subject : Uuid) : UInt64 :=
  Digest.remainder (Digest.md5 (trafficKey experiment subject).toUTF8.toList) 100

def bucket (experiment subject : Uuid) : Int32 := (traffic experiment subject).toUInt32.toInt32

def inTraffic (experiment subject : Uuid) (percentage : Int32) : Bool :=
  100 ≤ percentage || bucket experiment subject < percentage

section Names

variable {Name : Type} [LE Name] [DecidableLE Name]

def ordered (names : List Name) : List Name := names.mergeSort

def select (experiment subject : Uuid) (names : List Name) : Except Invalid Name :=
  if names.isEmpty then .error .noVariants
  else do
    let digest := Digest.sha256 (variantKey experiment subject).toUTF8.toList
    let place ← Digest.residue digest (UInt64.ofNat names.length)
    match (ordered names)[place.toNat]? with
    | some name => return name
    | none => .error .noVariants

end Names

end Bucket

namespace Assign

def component : String := "AssignmentEngine"

def event (level : Level) (message : String) (experiment subject : Uuid)
    (more : List (String × String)) : Event :=
  .of level component message
    ([("experiment", experiment.text), ("subject", subject.text)] ++ more)

def bindNew (e : Experiment) (experiment subject : Uuid) : Operation String := do
  if ! Bucket.inTraffic experiment subject e.traffic then
    Operation.emit <| event .debug "subject excluded by traffic gate" experiment subject
      [("traffic", toString e.traffic)]
    throw .excluded
  if e.variants.isEmpty then throw (.variantsMissing e.name)
  let variant ← Operation.ofExcept (Bucket.select experiment subject e.variants.names)
  let assignedAt ← Operation.request .now
  match ← Operation.call (.createAssignment { experiment, subject, variant, assignedAt }) with
  | .inserted =>
    Operation.emit (event .info "assignment created" experiment subject [("variant", variant)])
    return variant
  | .conflict =>
    match ← Operation.call (.assignment experiment subject) with
    | none => throw (.winnerMissing subject)
    | some winner =>
      Operation.emit <| event .info "assignment conflict resolved" experiment subject
        [("variant", winner.variant)]
      return winner.variant

def body (experiment subject : Uuid) : Operation String := do
  match ← Operation.call (.experimentById experiment) with
  | none => throw (.experimentMissing experiment)
  | some e =>
    if e.status ≠ .running then throw (.notRunning e.name e.status)
    match ← Operation.call (.assignment experiment subject) with
    | some existing => return existing.variant
    | none => bindNew e experiment subject

end Assign

def assign (experiment subject : Uuid) : Program (Outcome String) :=
  Transaction.run Assign.component "assign" (Assign.body experiment subject)

end SplitTest
