import SplitTest.Program
import SplitTest.Store.Call

namespace SplitTest

/-- What chance holds ready for a request. A call of the store breaks down before it does
anything, if it does. -/
structure Chance where
  call : Option Fault := none
  event : Option Fault := none
  undo : Option Fault := none
  now : Timestamp := ⟨0⟩
  id : Uuid := ⟨0⟩

structure Exchange where
  request : Request
  reply : Except Fault request.Reply

abbrev History := List Exchange

def Chance.reply (fault : Option Fault) : Except Fault Unit :=
  match fault with
  | some fault => .error fault
  | none => .ok ()

def Chance.attempt (chance : Chance) (undo : Undo) (s : Store) : Option Fault × Store :=
  match chance.undo with
  | some fault => (some fault, s)
  | none => (none, undo.perform s)

def Request.perform (chance : Chance) :
    (r : Request) → Store → UnitOfWork → Except Fault r.Reply × Store × UnitOfWork
  | .call c, s, u =>
    match chance.call with
    | some fault => (.error fault, s, u)
    | none =>
      match c.perform s with
      | (.error fault, s') => (.error fault, s', u)
      | (.ok reply, s') => (.ok reply, s', u.remember (c.undo? s reply))
  | .commit, s, u => (.ok (), s, u.commit)
  | .rollback, s, u =>
    let ((fault, pending), s) := UnitOfWork.unwind chance.attempt u.pending s
    (Chance.reply fault, s, { u with pending, rollbacks := u.rollbacks + 1 })
  | .emit _, s, u => (Chance.reply chance.event, s, u)
  | .now, s, u => (.ok chance.now, s, u)
  | .freshId, s, u => (.ok chance.id, s, u)

structure Workplace where
  store : Store
  unit : UnitOfWork
  chances : Nat → Chance
  exchanges : History := []

def Workplace.reply : Program.Surroundings Workplace := fun request w =>
  let (reply, store, unit) := request.perform (w.chances 0) w.store w.unit
  (reply, { store, unit, chances := fun n => w.chances (n + 1),
            exchanges := ⟨request, reply⟩ :: w.exchanges })

end SplitTest
