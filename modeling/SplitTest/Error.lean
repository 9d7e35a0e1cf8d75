import SplitTest.Experiment
import SplitTest.Uuid

namespace SplitTest

inductive ErrorKind where
  | notFound
  | validation
  | duplicateName
  | invalidState
  | trafficExclusion
  | storage
  | unknown
deriving DecidableEq

namespace ErrorKind

def name : ErrorKind → String
  | notFound => "NotFound"
  | validation => "Validation"
  | duplicateName => "DuplicateName"
  | invalidState => "InvalidState"
  | trafficExclusion => "TrafficExclusion"
  | storage => "Storage"
  | unknown => "Unknown"

def all : List ErrorKind :=
  [notFound, validation, duplicateName, invalidState, trafficExclusion, storage]

def ofPlace (place : Int) : ErrorKind := (place.toNat?.bind (all[·]?)).getD unknown

end ErrorKind

inductive Error where
  | experimentMissing (id : Uuid)
  | nameEmpty
  | nameTooLong (limit : UInt64)
  | variantsTooFew
  | variantNameEmpty
  | trafficOutside (percentage : Int32)
  | nameTaken (name : String)
  | wrongStatus (action : String) (required actual : Status)
  | statusChanged (expected : Status)
  | metricNotFinite (metric : String)
  | confidenceOutside (low high : String)
  | notRunning (name : String) (status : Status)
  | excluded
  | variantsMissing (name : String)
  | winnerMissing (subject : Uuid)
  | flagMissing (flag : String)
  | organizationRequired
  | operationFailed (operation what : String)
  | raised (what : String)
  | stated (kind : ErrorKind) (message : String)
deriving DecidableEq

namespace Error

def kind : Error → ErrorKind
  | experimentMissing _ | flagMissing _ => .notFound
  | nameEmpty | nameTooLong _ | variantsTooFew | variantNameEmpty | trafficOutside _
  | metricNotFinite _ | confidenceOutside _ _ | organizationRequired => .validation
  | nameTaken _ => .duplicateName
  | wrongStatus _ _ _ | statusChanged _ | notRunning _ _ | variantsMissing _ => .invalidState
  | excluded => .trafficExclusion
  | winnerMissing _ | operationFailed _ _ | raised _ => .storage
  | stated kind _ => kind

def message : Error → String
  | experimentMissing id => s!"Experiment {id} not found"
  | nameEmpty => "Experiment name must not be empty"
  | nameTooLong limit => s!"Experiment name exceeds {limit} characters"
  | variantsTooFew => "Experiment must have at least 2 variants"
  | variantNameEmpty => "Variant names must not be empty"
  | trafficOutside percentage =>
    s!"Traffic percentage must be between 1 and 100, got {percentage}"
  | nameTaken name => s!"Experiment '{name}' already exists"
  | wrongStatus action required actual =>
    s!"Can only {action} {required} experiments (experiment is {actual})"
  | statusChanged expected =>
    s!"Experiment is no longer {expected}; it was changed by a concurrent request"
  | metricNotFinite metric => s!"Metric '{metric}' value must be finite"
  | confidenceOutside low high => s!"Confidence level must lie in [{low}, {high}]"
  | notRunning name status => s!"Experiment '{name}' is not running (status {status})"
  | excluded => "Subject not in experiment traffic"
  | variantsMissing name => s!"Experiment '{name}' has no variants"
  | winnerMissing subject =>
    s!"Assignment insert conflicted but no assignment exists for subject {subject}"
  | flagMissing flag => s!"No running experiment named '{flag}'"
  | organizationRequired => "Flag lookups require an organization"
  | operationFailed operation what => s!"{operation} failed: {what}"
  | raised what => what
  | stated _ message => message

def headline (e : Error) : String := s!"{e.kind.name}: {e.message}"

end Error

/-- A breakdown: no answer comes back. -/
inductive Fault where
  | invalid (cause : Invalid)
  | demanded (error : Error)
  | noError
  | reported (what : String)
  | danglingName
  | unitClosed (name : String)
deriving DecidableEq

namespace Fault

def wording : Fault → String
  | invalid cause => cause.message
  | demanded error => error.headline
  | noError => "Result::error() called on a successful result"
  | reported what => what
  | danglingName => "name index entry without an experiment"
  | unitClosed name => s!"no open unit of work '{name}'"

def message (fault : Fault) : String :=
  String.ofList (fault.wording.toList.takeWhile (· ≠ '\x00'))

end Fault

abbrev Outcome (α : Type) := Except Error α

namespace Outcome

variable {α : Type}

def demand : Outcome α → Except Fault α
  | .ok a => .ok a
  | .error e => .error (.demanded e)

def demandError : Outcome α → Except Fault Error
  | .ok _ => .error .noError
  | .error e => .ok e

def isOk : Outcome α → Bool
  | .ok _ => true
  | .error _ => false

def hasKind (kind : ErrorKind) : Outcome α → Bool
  | .ok _ => false
  | .error e => e.kind = kind

end Outcome

end SplitTest
