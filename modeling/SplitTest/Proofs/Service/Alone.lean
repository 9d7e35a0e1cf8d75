import SplitTest.Proofs.Service.Lawful
import SplitTest.Proofs.Store.Requests

namespace SplitTest

namespace Workplace

variable {store : Store} {unit : UnitOfWork} {h : History} {w : Workplace}

structure Tells (store : Store) (unit : UnitOfWork) (h : History) (w : Workplace) : Prop where
  kept : w.exchanges = h
  calm : h.Calm
  quiet : ∀ n, (w.chances n).event = none
  clear : ¬ h.Unsettled → w.unit.pending = []
  unwritten : h.Unwritten → w.store = store
  commits : w.unit.commits = unit.commits + h.commits
  rollbacks : w.unit.rollbacks = unit.rollbacks + h.rollbacks

theorem Tells.reply {settings : Settings} {service : Service} {r : Request}
    (told : Tells store unit h w) (lawful : service.law settings h r) :
    Tells store unit (⟨r, (reply r w).1⟩ :: h) (reply r w).2 := by
  have empty : r = .rollback → w.unit.pending = [] := by
    rintro rfl
    exact told.clear (lawful told.calm).not_unsettled
  constructor
  case kept => exact congrArg _ told.kept
  case calm =>
    exact History.calm_cons.mpr ⟨Request.perform_calm empty (told.quiet 0), told.calm⟩
  case quiet => exact fun n => told.quiet (n + 1)
  case clear => exact Request.perform_clear empty told.clear
  case unwritten =>
    intro unwritten
    obtain ⟨silent, unwritten⟩ := History.unwritten_cons.mp unwritten
    exact (Request.perform_silent empty silent).trans (told.unwritten unwritten)
  case commits =>
    rw [History.commits_cons, ← Nat.add_assoc, ← told.commits]
    exact Request.perform_commits
  case rollbacks =>
    rw [History.rollbacks_cons, ← Nat.add_assoc, ← told.rollbacks]
    exact Request.perform_rollbacks

structure Leaves (operation : String) (store : Store) (unit : UnitOfWork) (outcome : Outcome Value)
    (w : Workplace) : Prop where
  clear : w.unit.pending = []
  failed : ∀ e, outcome = .error e → w.store = store ∧ w.unit.commits = unit.commits ∧
    w.unit.rollbacks = unit.rollbacks + 1
  answered : ∀ value, outcome = .ok value → w.unit.commits = unit.commits + 1 ∧
    w.unit.rollbacks = unit.rollbacks
  reported : ∀ fault ∈ w.exchanges.callFaults, ∃ e, outcome = .error e ∧ e.kind = .storage ∧
    e = .operationFailed operation fault.message

theorem Tells.leaves {operation : String} {outcome : Outcome Value} (told : Tells store unit h w)
    (settled : h.Calm → ¬ h.Unsettled)
    (concluded : h.Calm → Transaction.Concluded operation h (.ok outcome)) :
    Leaves operation store unit outcome w := by
  rcases outcome with e | value
  · obtain ⟨commits, rollbacks, unwritten, faults⟩ := concluded told.calm
    refine ⟨told.clear (settled told.calm), ?_, by rintro _ ⟨⟩, fun fault broke => ?_⟩
    · rintro _ ⟨⟩
      refine ⟨told.unwritten unwritten, ?_, ?_⟩
      · rw [told.commits, commits, Nat.add_zero]
      · rw [told.rollbacks, rollbacks]
    · rw [told.kept] at broke
      rw [faults fault broke]
      exact ⟨_, rfl, rfl, rfl⟩
  · obtain ⟨commits, rollbacks, faults⟩ := concluded told.calm
    refine ⟨told.clear (settled told.calm), by rintro _ ⟨⟩, ?_, fun fault broke => ?_⟩
    · rintro _ ⟨⟩
      refine ⟨?_, ?_⟩
      · rw [told.commits, commits]
      · rw [told.rollbacks, rollbacks, Nat.add_zero]
    · rw [told.kept, faults] at broke
      cases broke

/-- A transaction on its own, whatever calls of the store break down, comes to an outcome. If that
is an error, it left the store as it was. -/
theorem service_run_leaves (settings : Settings) (service : Service) (operation : String)
    (store : Store) (unit : UnitOfWork) (chances : Nat → Chance)
    (named : service.operation? = some operation) (empty : unit.pending = [])
    (quiet : ∀ n, (chances n).event = none) :
    ∃ outcome w, (service.program settings).run reply { store, unit, chances } = (.ok outcome, w) ∧
      Leaves operation store unit outcome w := by
  have told : Tells store unit [] { store, unit, chances } :=
    ⟨rfl, History.calm_nil, quiet, fun _ => empty, fun _ => rfl, rfl, rfl⟩
  obtain ⟨h, told, settled, -, concluded⟩ := (service.program_meets settings).run
    (Tells store unit) (fun _ _ _ lawful told => told.reply lawful) told
  generalize (service.program settings).run reply { store, unit, chances } = final at *
  rcases final with ⟨fault | outcome, w⟩
  · exact (concluded operation named told.calm).elim
  · exact ⟨outcome, w, rfl, told.leaves settled (concluded operation named)⟩

theorem start_run_leaves :
    let store : Store := (({} : Store).createExperiment
      { id := ⟨1⟩, organization := ⟨2⟩, name := "colour" }).2
    let chances : Nat → Chance := fun n => if n = 3 then { call := some .danglingName } else {}
    ∃ outcome w, ((Service.start ⟨1⟩).program {}).run reply { store, unit := {}, chances } =
      (.ok outcome, w) ∧ Leaves "start" store {} outcome w :=
  service_run_leaves {} (.start ⟨1⟩) "start" _ {} _ rfl rfl fun n => by
    split <;> rfl

end Workplace

end SplitTest
