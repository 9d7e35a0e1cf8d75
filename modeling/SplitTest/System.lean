import Mathlib.Logic.Function.Basic
import SplitTest.Service
import SplitTest.Workplace

/-!
Clients that share a store, each with a unit of work of its own. A client has one call under way at
a time. Its requests are replied to one by one, and between two of them the others may go on; a
rollback is as many steps as there are writes to take back.
-/

namespace SplitTest

/-- What a client can be asked to run: a service, or any program that works through its unit of
work. -/
inductive Job where
  | service (settings : Settings) (service : Service)
  | other (program : Program (Outcome Value))

def Job.program : Job → Program (Outcome Value)
  | .service settings s => s.program settings
  | .other p => p

structure Task where
  ticket : Nat
  job : Job
  exchanges : History := []
  rest : Program (Outcome Value)

structure Client where
  unit : UnitOfWork := {}
  task : Option Task := none

inductive Deed where
  | replied (exchange : Exchange)
  | undone (undo : Undo)
  | ended (result : Except Fault (Outcome Value))

structure Entry (ι : Type) where
  client : ι
  ticket : Nat
  job : Job
  deed : Deed

abbrev Trace (ι : Type) := List (Entry ι)

structure System (ι : Type) where
  store : Store := {}
  clients : ι → Client := fun _ => {}
  tickets : Nat := 0
  trace : Trace ι := []

inductive Move (ι : Type) where
  | begin (client : ι) (job : Job)
  | proceed (client : ι) (chance : Chance)
  | undo (undo : Undo)

def UnitOfWork.takeBack? (chance : Chance) (u : UnitOfWork) : Request → Option (Undo × UnitOfWork)
  | .rollback =>
    match chance.undo, u.pending with
    | none, undo :: pending => some (undo, { u with pending })
    | _, _ => none
  | _ => none

namespace System

variable {ι : Type} [DecidableEq ι]

def start (store : Store) (units : ι → UnitOfWork) : System ι :=
  { store, clients := fun i => { unit := units i } }

def setClient (i : ι) (client : Client) (w : System ι) : System ι :=
  { w with clients := Function.update w.clients i client }

def note (i : ι) (task : Task) (deed : Deed) (w : System ι) : System ι :=
  { w with trace := ⟨i, task.ticket, task.job, deed⟩ :: w.trace }

def accept (i : ι) (job : Job) (w : System ι) : System ι :=
  { w.setClient i { (w.clients i) with
      task := some { ticket := w.tickets, job, rest := job.program } } with
    tickets := w.tickets + 1 }

def begin (i : ι) (job : Job) (w : System ι) : System ι :=
  match (w.clients i).task with
  | some _ => w
  | none => w.accept i job

def finish (i : ι) (task : Task) (result : Except Fault (Outcome Value)) (w : System ι) :
    System ι :=
  (w.setClient i { unit := (w.clients i).unit }).note i task (.ended result)

def takeBack (i : ι) (task : Task) (undo : Undo) (unit : UnitOfWork) (w : System ι) : System ι :=
  ({ w with store := undo.perform w.store }.setClient i { unit, task := some task }).note i task
    (.undone undo)

def answer (i : ι) (chance : Chance) (task : Task) (request : Request)
    (next : Except Fault request.Reply → Program (Outcome Value)) (w : System ι) : System ι :=
  let (reply, store, unit) := request.perform chance w.store (w.clients i).unit
  let exchange : Exchange := ⟨request, reply⟩
  let task' := { task with exchanges := exchange :: task.exchanges, rest := next reply }
  ({ w with store }.setClient i { unit, task := some task' }).note i task (.replied exchange)

/-- A call that has a result ends, and any other gets a reply to its request or has one of its
writes taken back. -/
def advance (i : ι) (chance : Chance) (task : Task) (w : System ι) : System ι :=
  match task.rest with
  | .done result => w.finish i task result
  | .ask request next =>
    match (w.clients i).unit.takeBack? chance request with
    | some (undo, unit) => w.takeBack i task undo unit
    | none => w.answer i chance task request next

def proceed (i : ι) (chance : Chance) (w : System ι) : System ι :=
  match (w.clients i).task with
  | none => w
  | some task => w.advance i chance task

def step (w : System ι) : Move ι → System ι
  | .begin i job => w.begin i job
  | .proceed i chance => w.proceed i chance
  | .undo undo => { w with store := undo.perform w.store }

def run (w : System ι) (moves : List (Move ι)) : System ι := moves.foldl step w

end System

end SplitTest
