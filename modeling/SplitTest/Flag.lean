import SplitTest.Assign
import SplitTest.Settings

/-!
Feature flags over experiments: a flag is a running experiment's name, and it is on for a subject
that falls into a variant other than the control. Whatever goes wrong turns a flag off.
-/

namespace SplitTest

namespace Flag

def component : String := "FeatureFlags"

/-- Reads the running experiments page by page until one has the flag's name or a page is short.
A next page whose offset does not fit 64 bits is not read. -/
def scan (flag : String) (pageSize offset : UInt64) : Operation Experiment := do
  let page ← Operation.call (.listExperiments none (some .running) pageSize offset)
  match page.find? (·.name = flag) with
  | some e => return e
  | none =>
    if page.length < pageSize.toNat then throw (.flagMissing flag)
    else if offset < offset + pageSize then scan flag pageSize (offset + pageSize)
    else throw (.flagMissing flag)
termination_by UInt64.size - offset.toNat
decreasing_by
  rename_i h
  have := UInt64.lt_iff_toNat_lt.mp h
  have := (offset + pageSize).toNat_lt_size
  omega

def unscoped (flag : String) : Event :=
  .of .warning component "flag lookup without organization scope" [("flag", flag)]

def find (settings : Settings) (flag : String) (organization : Option Uuid) :
    Operation Experiment := do
  match organization with
  | some organization =>
    match ← Operation.call (.experimentByName flag organization) with
    | some e => if e.status = .running then return e else throw (.flagMissing flag)
    | none => throw (.flagMissing flag)
  | none =>
    if ! settings.allowUnscoped then throw .organizationRequired
    Operation.emit (unscoped flag)
    scan flag settings.scanLimit 0

def resolve (settings : Settings) (flag : String) (subject : Uuid) (organization : Option Uuid) :
    Program (Outcome String) := do
  match ← Transaction.run component "find_flag" (find settings flag organization) with
  | .error e => return .error e
  | .ok e => assign e.id subject

def off (flag : String) (subject : Uuid) (reason : ErrorKind) : Event :=
  .of .debug component "flag evaluated as off"
    [("flag", flag), ("subject", subject.text), ("reason", reason.name)]

/-- The variant of a subject, and none for every reason there may be. -/
def variant (settings : Settings) (flag : String) (subject : Uuid) (organization : Option Uuid) :
    Program (Option String) := do
  let outcome ← (resolve settings flag subject organization).handle fun fault =>
    pure (.error (.raised fault.message))
  match outcome with
  | .ok variant => return some variant
  | .error e =>
    Program.request (.emit (off flag subject e.kind))
    return none

def isEnabled (settings : Settings) (flag : String) (subject : Uuid)
    (organization : Option Uuid) : Program Bool := do
  let variant ← variant settings flag subject organization
  return variant.any (· ≠ settings.controlVariant)

end Flag

end SplitTest
