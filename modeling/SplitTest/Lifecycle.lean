import SplitTest.Binary64
import SplitTest.Stats
import SplitTest.Program

/-!
The life of an experiment: it is created as a draft, changed while it is one, started, measured,
and stopped. Each service is one transaction.
-/

namespace SplitTest

namespace Lifecycle

variable {α : Type}

def component : String := "LifecycleManager"

def transaction (operation : String) (body : Operation α) : Program (Outcome α) :=
  Transaction.run component operation body

def event (level : Level) (message : String) (fields : List (String × String)) : Event :=
  .of level component message fields

def checkVariants (variants : Variants) : Outcome Unit :=
  if variants.size < 2 then .error .variantsTooFew
  else if variants.names.any String.isEmpty then .error .variantNameEmpty
  else .ok ()

def checkTraffic (traffic : Int32) : Outcome Unit :=
  if traffic < 1 ∨ 100 < traffic then .error (.trafficOutside traffic) else .ok ()

def checkDraft (settings : Settings) (draft : Draft) : Outcome Unit := do
  if draft.name.isEmpty then throw .nameEmpty
  if settings.maxNameLength.toNat < draft.name.utf8ByteSize then
    throw (.nameTooLong settings.maxNameLength)
  checkVariants draft.variants
  checkTraffic draft.traffic

def checkChanges (changes : Changes) : Outcome Unit := do
  changes.variants.forM checkVariants
  changes.traffic.forM checkTraffic

def ofDraft (draft : Draft) (organization id : Uuid) (now : Timestamp) : Experiment :=
  { id, organization
    name := draft.name
    description := draft.description
    variants := draft.variants
    targetingRules := draft.targetingRules
    traffic := draft.traffic
    createdAt := now
    updatedAt := now }

def created (e : Experiment) : Event :=
  event .info "experiment created"
    [("experiment", e.id.text), ("name", e.name), ("variants", toString e.variants.size),
     ("traffic", toString e.traffic)]

/-- The name is looked up before an id is drawn; it is the insertion that decides. -/
def create (settings : Settings) (draft : Draft) (organization : Uuid) :
    Program (Outcome Experiment) :=
  transaction "create" do
    Operation.ofOutcome (checkDraft settings draft)
    if (← Operation.call (.experimentByName draft.name organization)).isSome then
      throw (.nameTaken draft.name)
    let id ← Operation.request .freshId
    let now ← Operation.request .now
    let e := ofDraft draft organization id now
    match ← Operation.call (.createExperiment e) with
    | .conflict => throw (.nameTaken draft.name)
    | .inserted =>
      Operation.emit (created e)
      return e

def load (id : Uuid) : Operation Experiment := do
  match ← Operation.call (.experimentById id) with
  | some e => return e
  | none => throw (.experimentMissing id)

def loadIn (required : Status) (action : String) (id : Uuid) : Operation Experiment := do
  let e ← load id
  if e.status = required then return e
  else throw (.wrongStatus action required e.status)

def overtaken (id : Uuid) (expected : Status) : Event :=
  event .warning "concurrent status change"
    [("experiment", id.text), ("expected", expected.name)]

/-- Writes a changed experiment back, unless its status is no longer the one it was read in. -/
def save (e : Experiment) (read : Status) : Operation Experiment := do
  let now ← Operation.request .now
  let e := { e with updatedAt := now }
  match ← Operation.call (.updateExperiment e read) with
  | .updated => return e
  | .notFound => throw (.experimentMissing e.id)
  | .statusChanged =>
    Operation.emit (overtaken e.id read)
    throw (.statusChanged read)

def stepped (message : String) (id : Uuid) : Event :=
  event .info message [("experiment", id.text)]

def update (id : Uuid) (changes : Changes) : Program (Outcome Experiment) :=
  transaction "update" do
    let e ← loadIn .draft "update" id
    Operation.ofOutcome (checkChanges changes)
    let saved ← save (changes.apply e) .draft
    Operation.emit (stepped "experiment updated" id)
    return saved

def start (id : Uuid) : Program (Outcome Experiment) :=
  transaction "start" do
    let e ← loadIn .draft "start" id
    let now ← Operation.request .now
    let saved ← save { e with status := .running, startedAt := some now } .draft
    Operation.emit (stepped "experiment started" id)
    return saved

def stop (id : Uuid) : Program (Outcome Experiment) :=
  transaction "stop" do
    let e ← loadIn .running "stop" id
    let now ← Operation.request .now
    let saved ← save { e with status := .completed, endedAt := some now } .running
    Operation.emit (stepped "experiment stopped" id)
    return saved

def get (id : Uuid) : Program (Outcome Experiment) := transaction "get" (load id)

def list (settings : Settings) (organization : Uuid) (status : Option Status)
    (limit offset : UInt64) : Program (Outcome (List Experiment)) :=
  transaction "list" <|
    Operation.call <|
      .listExperiments organization status (if limit = 0 then settings.listLimit else limit) offset

def recordMetric (experiment subject : Uuid) (metric : String) (value : Float) :
    Program (Outcome Unit) :=
  transaction "record_metric" do
    if ! value.isFinite then throw (.metricNotFinite metric)
    let recordedAt ← Operation.request .now
    Operation.call (.recordMetric { experiment, subject, metric, value, recordedAt })

/-- Six places. A p-value that is no number carries a minus, unless the gap between the means is
already no number: a gap has no sign. -/
def pValueText (variants : List VariantStats) (p : Float) : String :=
  if p.isNaN then
    match variants with
    | [a, b] => if (a.sample.gap b.sample).isNaN then "nan" else "-nan"
    | _ => "-nan"
  else (Binary64.ofFloat p).fixed 6

def computed (results : Results) : Event :=
  event .debug "results computed" <|
    [("experiment", results.experiment.text), ("metric", results.metric),
     ("variants", toString results.variants.size)] ++
      results.pValue.toList.map fun p => ("p_value", pValueText results.variants.values p)

def checkConfidence (settings : Settings) (confidence : Float) : Outcome Unit :=
  if settings.minConfidence ≤ confidence ∧ confidence ≤ settings.maxConfidence then .ok ()
  else .error <| .confidenceOutside ((Binary64.ofFloat settings.minConfidence).fixed 6)
    ((Binary64.ofFloat settings.maxConfidence).fixed 6)

def results (settings : Settings) (experiment : Uuid) (metric : String)
    (confidence : Option Float) (reductions : Stats.Reductions) : Program (Outcome Results) :=
  transaction "compute_results" do
    let confidence := confidence.getD settings.defaultConfidence
    Operation.ofOutcome (checkConfidence settings confidence)
    let e ← load experiment
    let stats ← Operation.call (.metricStats experiment metric reductions)
    let results ← Operation.ofExcept (Results.ofStats settings e metric stats confidence)
    Operation.emit (computed results)
    return results

def assignmentCounts (experiment : Uuid) : Program (Outcome (Std.ExtTreeMap String Nat)) :=
  transaction "assignment_counts" do
    let _ ← load experiment
    Operation.call (.assignmentCounts experiment)

end Lifecycle

end SplitTest
