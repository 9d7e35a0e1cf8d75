import SplitTest.Flag
import SplitTest.Lifecycle

namespace SplitTest

inductive Service where
  | create (draft : Draft) (organization : Uuid)
  | update (id : Uuid) (changes : Changes)
  | start (id : Uuid)
  | stop (id : Uuid)
  | get (id : Uuid)
  | list (organization : Uuid) (status : Option Status) (limit offset : UInt64)
  | recordMetric (experiment subject : Uuid) (metric : String) (value : Float)
  | results (experiment : Uuid) (metric : String) (confidence : Option Float)
      (reductions : Stats.Reductions := .inOrder)
  | assignmentCounts (experiment : Uuid)
  | assign (experiment subject : Uuid)
  | flagVariant (flag : String) (subject : Uuid) (organization : Option Uuid)
  | flagEnabled (flag : String) (subject : Uuid) (organization : Option Uuid)

inductive Value where
  | nothing
  | flag (b : Bool)
  | text (s : String)
  | variant (name : Option String)
  | sequence (n : UInt64)
  | inserted (outcome : InsertOutcome)
  | updated (outcome : UpdateOutcome)
  | experiment (e : Experiment)
  | found (e : Option Experiment)
  | experiments (es : List Experiment)
  | assignment (a : Option Assignment)
  | counts (counts : Std.ExtTreeMap String Nat)
  | stats (stats : List VariantStats)
  | results (results : Results)

def Service.program (settings : Settings) : Service → Program (Outcome Value)
  | create draft organization =>
    (·.map .experiment) <$> Lifecycle.create settings draft organization
  | update id changes => (·.map .experiment) <$> Lifecycle.update id changes
  | start id => (·.map .experiment) <$> Lifecycle.start id
  | stop id => (·.map .experiment) <$> Lifecycle.stop id
  | get id => (·.map .experiment) <$> Lifecycle.get id
  | list organization status limit offset =>
    (·.map .experiments) <$> Lifecycle.list settings organization status limit offset
  | recordMetric experiment subject metric value =>
    (·.map fun _ => .nothing) <$> Lifecycle.recordMetric experiment subject metric value
  | results experiment metric confidence reductions =>
    (·.map .results) <$> Lifecycle.results settings experiment metric confidence reductions
  | assignmentCounts experiment => (·.map .counts) <$> Lifecycle.assignmentCounts experiment
  | assign experiment subject => (·.map .text) <$> SplitTest.assign experiment subject
  | flagVariant flag subject organization =>
    (fun name => .ok (.variant name)) <$> Flag.variant settings flag subject organization
  | flagEnabled flag subject organization =>
    (fun b => .ok (.flag b)) <$> Flag.isEnabled settings flag subject organization

def Value.ofReply : (call : Call) → call.Reply → Value
  | .createExperiment _, reply => inserted reply
  | .updateExperiment _ _, reply => updated reply
  | .experimentById _, reply => found reply
  | .experimentByName _ _, reply => found reply
  | .listExperiments _ _ _ _, reply => experiments reply
  | .assignment _ _, reply => assignment reply
  | .createAssignment _, reply => inserted reply
  | .assignmentCounts _, reply => counts reply
  | .recordMetric _, () => nothing
  | .metricStats _ _ _, reply => stats reply

end SplitTest
