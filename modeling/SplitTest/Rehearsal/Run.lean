import SplitTest.Rehearsal.World

namespace SplitTest.Rehearsal

namespace World

def state (name : String) (w : World) : State where
  experiments := w.store.experiments.size
  assignments := w.store.assignments.size
  observations := w.store.observations.length
  work := w.units[name]?.map fun unit => (unit.pending.length, unit.commits, unit.rollbacks)

def close (name : String) (w : World) : String × World :=
  let idle := (w.units[name]?.map (·.pending.isEmpty)).getD true
  let (result, w) := if idle then (.ok (), w) else w.rollback name
  let report := match result with
    | .ok () => ""
    | .error fault =>
      s!"[InMemoryUnitOfWork] rollback of uncommitted writes failed: {fault.message}\n"
  (report, { w with units := w.units.erase name })

def openUnit (name : String) (journaled : Bool) (w : World) : World :=
  let w := (w.close name).2
  { w with units := w.units.insert name { journaled } }

def fail (method : Method) (what : String) (times : Option Nat) (w : World) : World :=
  { w with failing := fun m n =>
      if m = method then
        if times.all (n < ·) then some (.reported what) else none
      else w.failing m n }

def unfail (method : Method) (w : World) : World :=
  { w with failing := fun m n => if m = method then none else w.failing m n }

def conflict (method : Method) (times : Nat) (w : World) : World :=
  { w with conflicts := fun m => if m = method then times else w.conflicts m }

def hook (method : Method) (steps : List Step) (w : World) : World :=
  { w with hooks := fun m => if m = method then some steps else w.hooks m }

abbrev Result := Except Fault (Outcome Value)

def nothing : Result := .ok (.ok .nothing)

def act (interlude : List Step → World → World) (unit : Option String) (action : Action)
    (w : World) : Result × World :=
  let name := unit.getD "main"
  match action with
  | .refused cause => (.error (.invalid cause), w)
  | .service service => (service.program w.settings).run (World.reply interlude name) w
  | .commit => let (result, w) := w.commit name; (result.map fun _ => .ok .nothing, w)
  | .rollback => let (result, w) := w.rollback name; (result.map fun _ => .ok .nothing, w)
  | .call call =>
    let (result, w) := w.call interlude unit call
    (result.map fun reply => .ok (.ofReply call reply), w)
  | .append row =>
    let (sequence, store) := w.store.appendObservation row
    (.ok (.ok (.sequence sequence)), { w with store })
  | .undo undo =>
    let (fault, w) := w.attempt undo
    ((ofFault? fault).map fun _ => .ok .nothing, w)
  | .advance nanoseconds => (nothing, { w with now := ⟨w.now.nanoseconds + nanoseconds⟩ })
  | .openUnit journaled => (nothing, w.openUnit name journaled)
  | .closeUnit => let (report, w) := w.close name; (.ok (.ok (.text report)), w)
  | .fail method what times => (nothing, w.fail method what times)
  | .unfail method => (nothing, w.unfail method)
  | .conflict method times => (nothing, w.conflict method times)
  | .hook method steps => (nothing, w.hook method steps)

def step (interlude : List Step → World → World) (step : Step) (w : World) : Answer × World :=
  let (result, after) := act interlude step.1 step.2 { w with events := [], interludes := [] }
  (.mk result after.events after.interludes (after.state (step.1.getD "main")),
    { after with events := w.events, interludes := w.interludes })

/-- Steps of a hook. They may run into hooks themselves, nested as deep as hooks can be set up. -/
def interlude : Nat → List Step → World → World
  | 0, _, w => w
  | depth + 1, steps, w =>
    steps.foldl (fun w s =>
      let (answer, w) := w.step (interlude depth) s
      { w with interludes := w.interludes ++ [answer] }) w

def play (steps : List Step) (w : World) : List Answer × World :=
  let depth := hooksOf steps
  steps.foldl (fun (answers, w) s =>
    let (answer, w) := w.step (interlude depth) s
    (answers ++ [answer], w)) ([], w)

end World

def start (settings : Settings) (now : Timestamp) (ids : List Uuid) : Except Invalid World := do
  let settings ← settings.check
  return { settings, now, ids, units := ({} : Std.ExtTreeMap String UnitOfWork).insert "main" {} }

end SplitTest.Rehearsal
