import SplitTest.Rehearsal.Script
import SplitTest.Store.Call

/-!
One store with its units of work, a clock, a source of ids, and what the script has planned. A
call first meets a planned breakdown, then, if it writes, the steps of a hook and a planned
conflict, and then the store; the steps of a hook on a read come after it, and do not change what
was read.
-/

namespace SplitTest.Rehearsal

structure World where
  settings : Settings
  now : Timestamp
  ids : List Uuid := []
  counted : Nat := 0
  store : Store := {}
  units : Std.ExtTreeMap String UnitOfWork := {}
  failing : Method → Nat → Option Fault := fun _ _ => none
  conflicts : Method → Nat := fun _ => 0
  hooks : Method → Option (List Step) := fun _ => none
  events : List Event := []
  interludes : List Answer := []

/-- The method that a call counts as. A journaled unit of work updates and records past the
methods of those names. -/
def method? (journaled : Bool) : Call → Option Method
  | .createExperiment _ => some .createExperiment
  | .updateExperiment _ _ => if journaled then none else some .updateExperiment
  | .experimentById _ => some .experimentById
  | .experimentByName _ _ => some .experimentByName
  | .listExperiments _ _ _ _ => some .listExperiments
  | .assignment _ _ => some .assignment
  | .createAssignment _ => some .createAssignment
  | .assignmentCounts _ => some .assignmentCounts
  | .recordMetric _ => if journaled then none else some .recordMetric
  | .metricStats _ _ _ => some .metricStats

def isWrite : Method → Bool
  | .createExperiment | .updateExperiment | .createAssignment => true
  | _ => false

def isRead : Method → Bool
  | .experimentById | .experimentByName | .listExperiments | .assignment => true
  | _ => false

def undoMethod? : Undo → Option Method
  | .eraseExperiment _ => some .eraseExperiment
  | .restoreExperiment _ => none
  | .eraseAssignment _ _ => some .eraseAssignment
  | .eraseObservation _ => some .eraseObservation

namespace World

def strike (method : Method) (w : World) : Option Fault × World :=
  (w.failing method 0, { w with
    failing := fun m n => w.failing m (if m = method then n + 1 else n) })

def strike? (method : Option Method) (w : World) : Option Fault × World :=
  match method with
  | some method => w.strike method
  | none => (none, w)

def clash (method : Method) (w : World) : Bool × World :=
  (decide (0 < w.conflicts method), { w with
    conflicts := fun m => if m = method then w.conflicts m - 1 else w.conflicts m })

def visit (interlude : List Step → World → World) (method : Method) (w : World) : World :=
  match w.hooks method with
  | none => w
  | some steps =>
    interlude steps { w with hooks := fun m => if m = method then none else w.hooks m }

def journaled (unit : Option String) (w : World) : Bool :=
  match unit with
  | none => false
  | some name => (w.units[name]?.map (·.journaled)).getD false

def remember (unit : Option String) (undo : Option Undo) (w : World) : World :=
  match unit with
  | none => w
  | some name => { w with units := w.units.modify name (·.remember undo) }

def answer (unit : Option String) (call : Call) (w : World) : Except Fault call.Reply × World :=
  match call.perform w.store with
  | (.error fault, store) => (.error fault, { w with store })
  | (.ok reply, store) =>
    (.ok reply, ({ w with store }).remember unit (call.undo? w.store reply))

def call (interlude : List Step → World → World) (unit : Option String) (call : Call)
    (w : World) : Except Fault call.Reply × World :=
  match method? (w.journaled unit) call with
  | none => w.answer unit call
  | some method =>
    match w.strike method with
    | (some fault, w) => (.error fault, w)
    | (none, w) =>
      let w := if isWrite method then w.visit interlude method else w
      match call.conflict?, w.clash method with
      | some conflict, (true, w) => (.ok conflict, w)
      | _, _ =>
        match w.answer unit call with
        | (.error fault, w) => (.error fault, w)
        | (.ok reply, w) => (.ok reply, if isRead method then w.visit interlude method else w)

def attempt (undo : Undo) (w : World) : Option Fault × World :=
  match w.strike? (undoMethod? undo) with
  | (some fault, w) => (some fault, w)
  | (none, w) => (none, { w with store := undo.perform w.store })

def ofFault? : Option Fault → Except Fault Unit
  | some fault => .error fault
  | none => .ok ()

def commit (name : String) (w : World) : Except Fault Unit × World :=
  match w.units[name]? with
  | none => (.error (.unitClosed name), w)
  | some unit =>
    let (fault, w) := if unit.journaled then (none, w) else w.strike .commit
    match fault with
    | some fault => (.error fault, w)
    | none => (.ok (), { w with units := w.units.insert name unit.commit })

def rollback (name : String) (w : World) : Except Fault Unit × World :=
  match w.units[name]? with
  | none => (.error (.unitClosed name), w)
  | some unit =>
    let unit := { unit with rollbacks := unit.rollbacks + 1 }
    if unit.journaled then
      let ((fault, pending), w) := UnitOfWork.unwind attempt unit.pending w
      (ofFault? fault, { w with units := w.units.insert name { unit with pending } })
    else
      match w.strike .rollback with
      | (some fault, w) => (.error fault, w)
      | (none, w) => (.ok (), { w with units := w.units.insert name unit })

def emit (event : Event) (w : World) : Except Fault Unit × World :=
  match w.strike .observer with
  | (some fault, w) => (.error fault, w)
  | (none, w) => (.ok (), { w with events := w.events ++ [event] })

def countedId (n : Nat) : Uuid := ⟨BitVec.ofNat 128 (0x40008000000000000000 + n)⟩

def freshId (w : World) : Uuid × World :=
  match w.ids with
  | id :: ids => (id, { w with ids })
  | [] => (countedId (w.counted + 1), { w with counted := w.counted + 1 })

def reply (interlude : List Step → World → World) (name : String) :
    Program.Surroundings World
  | .call c, w => w.call interlude (some name) c
  | .commit, w => w.commit name
  | .rollback, w => w.rollback name
  | .emit event, w => w.emit event
  | .now, w => (.ok w.now, w)
  | .freshId, w => let (id, w) := w.freshId; (.ok id, w)

end World

end SplitTest.Rehearsal
