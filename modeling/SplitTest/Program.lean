import SplitTest.Event
import SplitTest.Store.Call

/-!
A service as it looks from outside. It asks one request after another of its surroundings, which
may break down instead of replying, and ends with a value or breaks down itself. As a transaction it
commits its writes if it answers with a value, and takes them back if it does not; a breakdown is
reported and becomes an answer.
-/

namespace SplitTest

inductive Request where
  | call (call : Call)
  | commit
  | rollback
  | emit (event : Event)
  | now
  | freshId

abbrev Request.Reply : Request → Type
  | call c => c.Reply
  | commit | rollback | emit _ => Unit
  | now => Timestamp
  | freshId => Uuid

inductive Program (α : Type) where
  | done (result : Except Fault α)
  | ask (request : Request) (next : Except Fault request.Reply → Program α)

namespace Program

variable {α β : Type}

def bind : Program α → (α → Program β) → Program β
  | done (.ok a), f => f a
  | done (.error fault), _ => done (.error fault)
  | ask request next, f => ask request fun reply => (next reply).bind f

def handle : Program α → (Fault → Program α) → Program α
  | done (.ok a), _ => done (.ok a)
  | done (.error fault), recover => recover fault
  | ask request next, recover => ask request fun reply => (next reply).handle recover

instance : Monad Program where
  pure a := done (.ok a)
  bind := bind

instance : MonadExceptOf Fault Program where
  throw fault := done (.error fault)
  tryCatch := handle

@[simp] theorem pure_def (a : α) : (pure a : Program α) = done (.ok a) := rfl

@[simp] theorem done_ok_bind (a : α) (f : α → Program β) : done (.ok a) >>= f = f a := rfl

@[simp] theorem done_error_bind (fault : Fault) (f : α → Program β) :
    done (.error fault) >>= f = done (.error fault) := rfl

@[simp] theorem ask_bind (request : Request) (next : Except Fault request.Reply → Program α)
    (f : α → Program β) : ask request next >>= f = ask request fun reply => next reply >>= f := rfl

@[simp] theorem bind_done_ok (p : Program α) : (p >>= fun a => done (.ok a)) = p := by
  induction p with
  | done result => cases result <;> rfl
  | ask request next ih => simp only [ask_bind, ih]

theorem bind_bind {γ : Type} (p : Program α) (f : α → Program β) (g : β → Program γ) :
    p >>= f >>= g = p >>= fun a => f a >>= g := by
  induction p with
  | done result => cases result <;> rfl
  | ask request next ih => simp only [ask_bind, ih]

instance : LawfulMonad Program :=
  LawfulMonad.mk' Program (fun p => bind_done_ok p) (fun _ _ => rfl) bind_bind

def request (r : Request) : Program r.Reply := ask r done

/-- Surroundings whose state is `σ`: how they reply to a request and what it makes of them. -/
abbrev Surroundings (σ : Type) := (r : Request) → σ → Except Fault r.Reply × σ

def run {σ : Type} (reply : Surroundings σ) : Program α → σ → Except Fault α × σ
  | done result, s => (result, s)
  | ask request next, s =>
    let (answer, s) := reply request s
    (next answer).run reply s

variable {σ : Type} (reply : Surroundings σ)

@[simp] theorem run_done (result : Except Fault α) (s : σ) :
    (done result).run reply s = (result, s) := rfl

@[simp] theorem run_ask (request : Request) (next : Except Fault request.Reply → Program α)
    (s : σ) : (ask request next).run reply s =
      (next (reply request s).1).run reply (reply request s).2 := rfl

theorem run_bind (p : Program α) (f : α → Program β) (s : σ) :
    (p >>= f).run reply s =
      match p.run reply s with
      | (.ok a, s) => (f a).run reply s
      | (.error fault, s) => (.error fault, s) := by
  induction p generalizing s with
  | done result => cases result <;> rfl
  | ask request next ih => simp only [ask_bind, run_ask, ih]

theorem run_handle (p : Program α) (recover : Fault → Program α) (s : σ) :
    (p.handle recover).run reply s =
      match p.run reply s with
      | (.ok a, s) => (.ok a, s)
      | (.error fault, s) => (recover fault).run reply s := by
  induction p generalizing s with
  | done result => cases result <;> rfl
  | ask request next ih => simp only [handle, run_ask, ih]

end Program

abbrev Operation := ExceptT Error Program

namespace Operation

variable {α : Type}

def request (r : Request) : Operation r.Reply := ExceptT.lift (Program.request r)

def call (c : Call) : Operation c.Reply := request (.call c)

def emit (event : Event) : Operation Unit := request (.emit event)

def ofOutcome (outcome : Outcome α) : Operation α := ExceptT.mk (pure outcome)

/-- A refused argument that only the program itself can have passed on is a breakdown. -/
def ofExcept (result : Except Invalid α) : Operation α :=
  ExceptT.lift (.done (result.mapError .invalid))

end Operation

def Event.of (level : Level) (component message : String) (fields : List (String × String)) :
    Event :=
  ⟨level, component, message, Std.ExtTreeMap.ofList fields⟩

namespace Transaction

variable {α : Type}

def conclude (outcome : Outcome α) : Program (Outcome α) := do
  match outcome with
  | .ok _ => Program.request .commit
  | .error _ => Program.request .rollback
  return outcome

def trouble (component message operation : String) (fault : Fault) : Event :=
  .of .error component message [("operation", operation), ("what", fault.message)]

/-- After a breakdown. That the writes cannot be taken back is reported too, and changes nothing
else. -/
def recover (component operation : String) (fault : Fault) : Program (Outcome α) := do
  Program.request (.emit (trouble component "storage failure" operation fault))
  Program.handle (Program.request .rollback) fun second =>
    Program.request (.emit (trouble component "rollback failed" operation second))
  return .error (.operationFailed operation fault.message)

def run (component operation : String) (body : Operation α) : Program (Outcome α) :=
  (body.run >>= conclude).handle (recover component operation)

end Transaction

end SplitTest
