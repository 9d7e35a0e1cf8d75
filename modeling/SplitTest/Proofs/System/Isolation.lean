import Mathlib.Data.List.Induction
import SplitTest.Proofs.System.Erasures

/-!
How far the rollback of one unit of work reaches into what the others write. It takes no assignment
away that another one inserted. An experiment goes back to what the unit of work found when it wrote
it, whoever has written it since.
-/

namespace SplitTest

def Undo.puts? : Undo → Option (Uuid × Option Experiment)
  | eraseExperiment id => some (id, none)
  | restoreExperiment row => some (row.id, some row)
  | _ => none

variable {ι : Type}

namespace Entry

def saved? : Entry ι → Option Experiment
  | ⟨_, _, _, .replied x⟩ => x.saved?
  | _ => none

def settled : Entry ι → Bool
  | ⟨_, _, _, .replied x⟩ => x.settled
  | _ => false

end Entry

def Trace.writer? (trace : Trace ι) (id : Uuid) : Option ι :=
  (trace.find? fun entry => entry.saved?.any (·.id = id)).map (·.client)

theorem Undo.perform_experimentById (u : Undo) (s : Store) (id : Uuid) :
    (u.perform s).experimentById id = s.experimentById id ∨
      u.puts? = some (id, (u.perform s).experimentById id) := by
  cases u with
  | eraseExperiment gone =>
    obtain same | ⟨-, erased⟩ := s.eraseExperiment_cases gone
    · rw [perform, same]
      exact .inl rfl
    · rw [perform, erased]
      split
      case isTrue same => exact .inr (by rw [same]; rfl)
      case isFalse => exact .inl rfl
  | restoreExperiment row =>
    obtain same | ⟨-, saved⟩ := s.restoreExperiment_cases row
    · rw [perform, same]
      exact .inl rfl
    · rw [perform, saved]
      split
      case isTrue same => exact .inr (by rw [← same]; rfl)
      case isFalse => exact .inl rfl
  | _ => exact .inl rfl

theorem Undo.perform_assignments (u : Undo) (s : Store) (key : AssignmentKey)
    (other : u.erases? ≠ some (.assignment key)) :
    (u.perform s).assignments[key]? = s.assignments[key]? := by
  cases u with
  | eraseExperiment id =>
    obtain same | ⟨same, -⟩ := s.eraseExperiment_cases id
    · rw [perform, same]
    · rw [perform, same]
  | restoreExperiment row =>
    obtain same | ⟨same, -⟩ := s.restoreExperiment_cases row
    · rw [perform, same]
    · rw [perform, same]
  | eraseAssignment experiment subject =>
    rw [perform, Store.eraseAssignment_getElem?, if_neg]
    intro same
    exact other (by rw [← same]; rfl)
  | eraseObservation sequence => rfl

theorem Call.puts_undo? {c : Call} {s s' : Store} {reply : c.Reply} {u : Undo} {id : Uuid}
    {found : Option Experiment} (keyed : s.Keyed) (performed : c.perform s = (.ok reply, s'))
    (kept : c.undo? s reply = some u) (puts : u.puts? = some (id, found)) :
    s.experimentById id = found ∧
      ∃ row, Exchange.saved? ⟨.call c, .ok reply⟩ = some row ∧ row.id = id := by
  have effect := Call.effect_of_perform performed
  cases c with
  | createExperiment row =>
    cases reply with
    | conflict => cases kept
    | inserted =>
      cases kept
      cases puts
      cases effect with
      | silent silent => cases silent
      | created fresh same saved => exact ⟨fresh, row, rfl, rfl⟩
  | updateExperiment row expected =>
    cases reply with
    | updated =>
      cases effect with
      | silent silent => cases silent
      | @updated _ old _ _ stored status same saved =>
        simp only [undo?, stored, Option.map_some] at kept
        cases kept
        cases puts
        have own : old.id = row.id := keyed.experiments stored
        rw [own]
        exact ⟨stored, row, rfl, rfl⟩
    | _ => cases kept
  | createAssignment row =>
    cases reply with
    | conflict => cases kept
    | inserted =>
      cases kept
      cases puts
  | recordMetric row =>
    cases kept
    cases puts
  | _ => cases kept

namespace System

variable {store : Store} {moves : List (Move ι)} {i : ι} {id : Uuid} {found : Option Experiment}
  [DecidableEq ι]

/-- In a run, a client found `found` under an id when it wrote there, and has come neither to a
commit nor to the end of a rollback since. -/
def Open (store : Store) (moves : List (Move ι)) (i : ι) (id : Uuid) (found : Option Experiment) :
    Prop :=
  ∃ before after entry since, moves = before ++ after ∧
    ((start store fun _ => {}).run moves).trace =
      since ++ entry :: ((start store fun _ => {}).run before).trace ∧
    entry.client = i ∧ (∃ row, entry.saved? = some row ∧ row.id = id) ∧
    (∀ e ∈ since, e.client = i → e.settled = false) ∧
    ((start store fun _ => {}).run before).store.experimentById id = found

theorem run_concat (w : System ι) (moves : List (Move ι)) (move : Move ι) :
    w.run (moves ++ [move]) = (w.run moves).step move := run_append w moves [move]

theorem Open.still {move : Move ι} (opened : Open store moves i id found)
    (same : ((start store fun _ => {}).run (moves ++ [move])).trace =
      ((start store fun _ => {}).run moves).trace) : Open store (moves ++ [move]) i id found := by
  obtain ⟨before, after, entry, since, rfl, trace, rest⟩ := opened
  refine ⟨before, after ++ [move], entry, since, ?_, ?_, rest⟩
  · rw [List.append_assoc]
  · rw [same, trace]

theorem Open.step {move : Move ι} {latest : Entry ι} (opened : Open store moves i id found)
    (trace : ((start store fun _ => {}).run (moves ++ [move])).trace =
      latest :: ((start store fun _ => {}).run moves).trace)
    (unsettled : latest.client = i → latest.settled = false) :
    Open store (moves ++ [move]) i id found := by
  obtain ⟨before, after, entry, since, rfl, old, client, wrote, open_, stored⟩ := opened
  refine ⟨before, after ++ [move], entry, latest :: since, ?_, ?_, client, wrote, ?_, stored⟩
  · rw [List.append_assoc]
  · rw [trace, old]
    rfl
  · exact List.forall_mem_cons.mpr ⟨unsettled, open_⟩

theorem open_of_pending (built : store.Built) (own : ∀ move ∈ moves, move.Own) {undo : Undo}
    (m : undo ∈ ((start store fun _ => {}).run moves).pending i)
    (puts : undo.puts? = some (id, found)) : Open store moves i id found := by
  induction moves using List.reverseRecOn generalizing undo i id found with
  | nil => cases m
  | append_singleton moves move ih =>
    have earlier (move : Move ι) (m : move ∈ moves) : move.Own :=
      own move (List.mem_append_left _ m)
    have journaled := (run_own store earlier).1
    have shift := shift_step journaled (own move (List.mem_append_right _ List.mem_cons_self))
    rw [← run_concat] at shift
    cases shift with
    | dropped same left trace =>
      have opened := ih earlier ((left i).subset m) puts
      obtain trace | ⟨entry, trace, quiet⟩ := trace
      · exact opened.still trace
      · apply opened.step trace
        intro mine
        obtain ⟨client, ticket, job, x | _ | _⟩ := entry
        · cases settled : x.settled with
          | false => exact settled
          | true =>
            have clear := (quiet x rfl).2 settled
            subst mine
            rw [clear] at m
            cases m
        · rfl
        · rfl
    | called j task c next reply busy rest performed kept others trace =>
      by_cases mine : i = j
      · subst mine
        rw [kept, List.mem_append, Option.mem_toList] at m
        obtain new | old := m
        · have keyed : ((start store fun _ => {}).run moves).store.Keyed := (built_run built).keyed
          obtain ⟨stored, wrote⟩ := c.puts_undo? keyed performed new puts
          exact ⟨moves, [move], _, [], rfl, trace, rfl, wrote, List.forall_mem_nil _, stored⟩
        · exact (ih earlier old puts).step trace fun _ => rfl
      · rw [others i mine] at m
        exact (ih earlier m puts).step trace fun _ => rfl
    | undone j task next u busy rest same left others trace =>
      have old : undo ∈ ((start store fun _ => {}).run moves).pending i := by
        by_cases mine : i = j
        · subst mine
          rw [left]
          exact List.mem_cons_of_mem _ m
        · rw [others i mine] at m
          exact m
      exact (ih earlier old puts).step trace fun _ => rfl

/-- A step of a rollback leaves alone what other clients inserted last among the assignments. An
experiment that it changes is one that its client wrote and has not committed, and goes back to
what was found there. -/
theorem run_rollback_isolated (store : Store) (moves : List (Move ι)) (i : ι) (task : Task)
    (next : Except Fault Unit → Program (Outcome Value)) (chance : Chance) (built : store.Built)
    (own : ∀ move ∈ moves, move.Own)
    (busy : (((start store fun _ => {}).run moves).clients i).task = some task)
    (rest : task.rest = .ask .rollback next) :
    let w := (start store fun _ => {}).run moves
    let w' := w.step (.proceed i chance)
    (∀ key, w.trace.inserter? (.assignment key) ≠ some i →
      w'.store.assignments[key]? = w.store.assignments[key]?) ∧
    ∀ id, w'.store.experimentById id = w.store.experimentById id ∨
      Open store moves i id (w'.store.experimentById id) := by
  intro w w'
  have owned : Owned w := (run_own store own).2
  have turn : Turn w (.proceed i chance) w' := w.turn_step (.proceed i chance)
  generalize w' = w' at turn ⊢
  cases turn with
  | skipped => exact ⟨fun key _ => rfl, fun id => .inl rfl⟩
  | finished busy' rest' =>
    cases busy.symm.trans busy'
    cases rest.symm.trans rest'
  | @tookBack _ _ _ _ undo pending busy' rest' left =>
    have head : undo ∈ (w.clients i).unit.pending := by
      rw [left]
      exact List.mem_cons_self
    constructor
    · intro key other
      apply undo.perform_assignments
      intro erases
      exact other (owned.latest i _ (List.mem_filterMap.mpr ⟨undo, head, erases⟩))
    · intro id
      exact (undo.perform_experimentById w.store id).imp_right (open_of_pending built own head)
  | answered busy' rest' untaken =>
    cases busy.symm.trans busy'
    cases rest.symm.trans rest'
    have same := (Request.perform_rollback_untaken (s := w.store) untaken).1
    constructor
    · intro key other
      exact congrArg (·.assignments[key]?) same
    · intro id
      exact .inl (congrArg (Store.experimentById id) same)

def writing (call : Call) (last : Request) : Job :=
  .other (.ask (.call call) fun _ => .ask last fun _ => .done (.ok (.ok .nothing)))

def rivals (first second : Call) : List (Move Bool) :=
  [.begin false (writing first .rollback), .begin true (writing second .commit),
    .proceed false {}, .proceed true {}, .proceed true {}]

def crowd : Experiment := { id := ⟨1⟩, organization := ⟨9⟩, name := "crowd" }

theorem run_rollback_isolated_bound :
    let store := (({} : Store).createExperiment crowd).2
    let bind (subject : Uuid) : Call := .createAssignment ⟨⟨1⟩, subject, "red", ⟨0⟩⟩
    let w := (start store fun _ => {}).run (rivals (bind ⟨7⟩) (bind ⟨8⟩))
    let w' := w.step (.proceed false {})
    w.store.assignments.size = 2 ∧ w'.store.assignments.size = 1 ∧
      w'.store.assignments[((⟨1⟩, ⟨8⟩) : AssignmentKey)]? =
        w.store.assignments[((⟨1⟩, ⟨8⟩) : AssignmentKey)]? := by
  intro store bind w w'
  have built : store.Built := .call (.createExperiment crowd) .empty
  have own : ∀ move ∈ rivals (bind ⟨7⟩) (bind ⟨8⟩), move.Own := by simp [rivals, Move.Own]
  have isolated := run_rollback_isolated store (rivals (bind ⟨7⟩) (bind ⟨8⟩)) false
    _ _ {} built own rfl rfl
  exact ⟨by decide +kernel, by decide +kernel, isolated.1 _ (by decide +kernel)⟩

/-- Two clients describe an experiment, and the second one commits. When the first one rolls back,
the description that was committed is lost. -/
theorem rollback_reverts_committed :
    let store := (({} : Store).createExperiment crowd).2
    let describe (text : String) : Call :=
      .updateExperiment { crowd with description := some text } .draft
    let w := (start store fun _ => {}).run (rivals (describe "first") (describe "second"))
    let w' := w.step (.proceed false {})
    w.trace.writer? ⟨1⟩ = some true ∧ w.pending true = [] ∧ (w.clients true).unit.commits = 1 ∧
      (w.store.experimentById ⟨1⟩).map (·.description) = some (some "second") ∧
      (w'.store.experimentById ⟨1⟩).map (·.description) = some none := by
  decide +kernel

end System

end SplitTest
