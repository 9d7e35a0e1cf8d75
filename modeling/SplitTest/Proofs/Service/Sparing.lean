import SplitTest.Proofs.Service.Obeying
import SplitTest.Proofs.Store.Unwinding
import SplitTest.Service

/-!
What a service leaves pending. It writes once at most before it commits or takes back, so that one
attempt of a rollback, even one that breaks down, leaves nothing; and it makes that attempt unless
the report of a breakdown breaks down itself.
-/

namespace SplitTest

open Program

def Request.Writes : Request → Prop
  | .call (.createExperiment _) | .call (.updateExperiment _ _) | .call (.createAssignment _)
  | .call (.recordMetric _) => True
  | _ => False

@[simp] def Exchange.concludes : Exchange → Bool
  | ⟨.commit, _⟩ | ⟨.rollback, _⟩ => true
  | _ => false

def Exchange.lost? : Exchange → Option Event
  | ⟨.emit event, .error _⟩ => some event
  | _ => none

namespace History

def Idle : History → Prop
  | [] => True
  | x :: h => x.concludes = true ∨ x.wrote = false ∧ Idle h

@[simp] theorem idle_nil : Idle [] := trivial

@[simp] theorem idle_cons {x : Exchange} {h : History} :
    Idle (x :: h) ↔ x.concludes = true ∨ x.wrote = false ∧ h.Idle := Iff.rfl

def Unreported (h : History) : Prop :=
  ∃ x ∈ h, ∃ event ∈ x.lost?, event.message = "storage failure"

instance {h : History} : Decidable h.Unreported :=
  inferInstanceAs (Decidable (∃ x ∈ h, ∃ event ∈ x.lost?, event.message = "storage failure"))

theorem Unreported.cons {x : Exchange} {h : History} (unreported : h.Unreported) :
    Unreported (x :: h) := by
  obtain ⟨y, m, lost⟩ := unreported
  exact ⟨y, List.mem_cons_of_mem _ m, lost⟩

/-- How a service leaves what it wrote. -/
def Cleared (h : History) : Prop := h.Idle ∨ h.Unreported

def ClearedBy {α : Type} (h : History) (result : Except Fault α) : Prop :=
  h.Idle ∨ h.Unreported ∧ ∃ fault, result = .error fault

theorem ClearedBy.cleared {α : Type} {h : History} {result : Except Fault α}
    (cleared : h.ClearedBy result) : h.Cleared :=
  cleared.imp_right And.left

theorem ClearedBy.idle {α : Type} {h : History} {a : α} (cleared : h.ClearedBy (.ok a)) :
    h.Idle := by
  obtain idle | ⟨-, fault, broke⟩ := cleared
  · exact idle
  · cases broke

theorem Cleared.emit {event : Event} {reply : Except Fault Unit} {h : History}
    (cleared : h.Cleared) : Cleared (⟨.emit event, reply⟩ :: h) :=
  cleared.imp (fun idle => .inr ⟨rfl, idle⟩) .cons

end History

def Request.Spares (h : History) (r : Request) : Prop := r.Writes → h.Idle

def Operation.Spares {α : Type} (op : Operation α) (h : History) : Prop :=
  op.Obeys Request.Spares (fun _ _ => True) h

namespace Transaction

variable {α : Type} {component operation : String} {h : History} {fault : Fault}

theorem recover_spares : (recover (α := α) component operation fault).Meets Request.Spares
    History.ClearedBy h := by
  unfold recover
  refine (meets_request _ _ _).mpr ⟨False.elim, fun _ => ?_, fun broke => ?_⟩
  · rw [meets_bind, meets_handle]
    refine ⟨False.elim, fun reply => ?_⟩
    cases reply with
    | ok _ => exact .inl (.inl rfl)
    | error second =>
      refine ⟨False.elim, fun reply => ?_⟩
      cases reply with
      | ok _ => exact .inl (.inr ⟨rfl, .inl rfl⟩)
      | error third => exact .inl (.inr ⟨rfl, .inl rfl⟩)
  · exact .inr ⟨⟨_, List.mem_cons_self, _, rfl, rfl⟩, broke, rfl⟩

theorem run_spares {body : Operation α} (spares : body.Spares h) :
    (run component operation body).Meets Request.Spares History.ClearedBy h := by
  rw [run, meets_handle, meets_bind]
  refine Program.Meets.mono (fun _ _ lawful => lawful) ?_ spares
  rintro h (fault | e | a) -
  · exact recover_spares
  · exact (meets_request _ _ _).mpr ⟨False.elim, fun _ => .inl (.inl rfl), fun _ => recover_spares⟩
  · exact (meets_request _ _ _).mpr ⟨False.elim, fun _ => .inl (.inl rfl), fun _ => recover_spares⟩

end Transaction

namespace Lifecycle

variable {α : Type} {h : History} {settings : Settings}

theorem revise_spares {id : Uuid} {row : Experiment} {read : Status} {message : String}
    (idle : h.Idle) : Operation.Spares (do
      let saved ← save row read
      Operation.emit (stepped message id)
      return saved) h :=
  save_obeys False.elim (fun _ _ => by simp [idle]) (fun _ => False.elim) (fun _ => trivial)
    (fun _ => trivial) fun _ _ => Operation.obeys_bind False.elim fun _ => trivial

theorem create_spares {draft : Draft} {organization : Uuid} :
    (create settings draft organization).Meets Request.Spares History.ClearedBy [] := by
  apply Transaction.run_spares
  refine Operation.obeys_ofOutcome (fun _ _ => trivial) fun _ _ => ?_
  refine Operation.obeys_bind False.elim fun found => ?_
  dsimp only
  split
  · trivial
  · refine Operation.obeys_bind False.elim fun id => Operation.obeys_bind False.elim fun now => ?_
    refine Operation.obeys_bind (fun _ => by simp) fun outcome => ?_
    cases outcome with
    | conflict => trivial
    | inserted => exact Operation.obeys_bind False.elim fun _ => trivial

theorem update_spares {id : Uuid} {changes : Changes} :
    (update id changes).Meets Request.Spares History.ClearedBy [] := by
  apply Transaction.run_spares
  refine loadIn_obeys False.elim (fun _ => trivial) (fun _ _ => trivial) fun e _ => ?_
  refine Operation.obeys_ofOutcome (fun _ _ => trivial) fun _ _ => ?_
  exact revise_spares (by simp)

theorem start_spares {id : Uuid} :
    (start id).Meets Request.Spares History.ClearedBy [] := by
  apply Transaction.run_spares
  refine loadIn_obeys False.elim (fun _ => trivial) (fun _ _ => trivial) fun e _ => ?_
  exact Operation.obeys_bind False.elim fun now => revise_spares (by simp)

theorem stop_spares {id : Uuid} : (stop id).Meets Request.Spares History.ClearedBy [] := by
  apply Transaction.run_spares
  refine loadIn_obeys False.elim (fun _ => trivial) (fun _ _ => trivial) fun e _ => ?_
  exact Operation.obeys_bind False.elim fun now => revise_spares (by simp)

theorem get_spares {id : Uuid} : (get id).Meets Request.Spares History.ClearedBy [] := by
  apply Transaction.run_spares
  rw [← bind_pure (load id)]
  exact load_obeys False.elim (fun _ => trivial) fun e => trivial

theorem list_spares {organization : Uuid} {status : Option Status} {limit offset : UInt64} :
    (list settings organization status limit offset).Meets Request.Spares
      History.ClearedBy [] :=
  Transaction.run_spares (Operation.obeys_request False.elim)

theorem recordMetric_spares {experiment subject : Uuid} {metric : String} {value : Float} :
    (recordMetric experiment subject metric value).Meets Request.Spares
      History.ClearedBy [] := by
  apply Transaction.run_spares
  split
  · trivial
  · refine Operation.obeys_bind False.elim fun now => ?_
    exact Operation.obeys_request fun _ => by simp

theorem results_spares {experiment : Uuid} {metric : String} {confidence : Option Float}
    {reductions : Stats.Reductions} :
    (results settings experiment metric confidence reductions).Meets Request.Spares
      History.ClearedBy [] := by
  apply Transaction.run_spares
  refine Operation.obeys_ofOutcome (fun _ _ => trivial) fun _ _ => ?_
  refine load_obeys False.elim (fun _ => trivial) fun e => ?_
  refine Operation.obeys_bind False.elim fun stats => Operation.obeys_ofExcept fun results _ => ?_
  exact Operation.obeys_bind False.elim fun _ => trivial

theorem assignmentCounts_spares {experiment : Uuid} :
    (assignmentCounts experiment).Meets Request.Spares History.ClearedBy [] := by
  apply Transaction.run_spares
  exact load_obeys False.elim (fun _ => trivial) fun e => Operation.obeys_request False.elim

end Lifecycle

theorem Assign.bindNew_spares {e : Experiment} {experiment subject : Uuid} {h : History}
    (idle : h.Idle) : (bindNew e experiment subject).Spares h := by
  unfold bindNew
  dsimp only
  split
  case isTrue => exact Operation.obeys_bind False.elim fun _ => trivial
  case isFalse =>
    split
    case isTrue => trivial
    case isFalse =>
      refine Operation.obeys_ofExcept fun variant _ => Operation.obeys_bind False.elim fun now => ?_
      refine Operation.obeys_bind (fun _ => by simp [idle]) fun outcome => ?_
      cases outcome with
      | inserted => exact Operation.obeys_bind False.elim fun _ => trivial
      | conflict =>
        refine Operation.obeys_bind False.elim fun winner => ?_
        cases winner with
        | none => trivial
        | some winner => exact Operation.obeys_bind False.elim fun _ => trivial

theorem assign_spares {experiment subject : Uuid} {h : History} (idle : h.Idle) :
    (assign experiment subject).Meets Request.Spares History.ClearedBy h := by
  apply Transaction.run_spares
  refine Operation.obeys_bind False.elim fun found => ?_
  cases found with
  | none => trivial
  | some e =>
    dsimp only
    split
    case isTrue => trivial
    case isFalse =>
      refine Operation.obeys_bind False.elim fun existing => ?_
      cases existing with
      | some existing => trivial
      | none => exact Assign.bindNew_spares (by simp [idle])

namespace Flag

variable {settings : Settings} {flag : String} {subject : Uuid} {organization : Option Uuid}
  {h : History}

theorem scan_spares {pageSize offset : UInt64} : (scan flag pageSize offset).Spares h := by
  induction offset using scan.induct pageSize generalizing h with
  | case1 offset ih =>
    rw [scan]
    refine Operation.obeys_bind False.elim fun page => ?_
    split
    case h_1 => trivial
    case h_2 =>
      split
      case isTrue => trivial
      case isFalse =>
        split
        case isTrue fits => exact ih page fits
        case isFalse => trivial

theorem find_spares : (find settings flag organization).Spares h := by
  cases organization with
  | some organization =>
    refine Operation.obeys_bind False.elim fun found => ?_
    cases found with
    | none => trivial
    | some e =>
      dsimp only
      split <;> trivial
  | none =>
    unfold find
    dsimp only
    split
    · trivial
    · exact Operation.obeys_bind False.elim fun _ => scan_spares

theorem resolve_spares : (resolve settings flag subject organization).Meets Request.Spares
    History.ClearedBy [] := by
  unfold resolve
  rw [meets_bind]
  refine (Transaction.run_spares find_spares).mono (fun _ _ lawful => lawful) ?_
  rintro h (fault | e | e) cleared
  · exact cleared.imp_right fun ⟨unreported, _⟩ => ⟨unreported, fault, rfl⟩
  · exact .inl cleared.idle
  · exact assign_spares cleared.idle

theorem off_spares {reason : ErrorKind} (cleared : h.Cleared) :
    (do Program.request (.emit (off flag subject reason)); return none).Meets Request.Spares
      (fun h (_ : Except Fault (Option String)) => h.Cleared) h :=
  (meets_request _ _ _).mpr ⟨False.elim, fun _ => cleared.emit, fun _ => cleared.emit⟩

theorem variant_spares : (variant settings flag subject organization).Meets Request.Spares
    (fun h _ => h.Cleared) [] := by
  unfold variant
  rw [meets_bind, meets_handle]
  refine resolve_spares.mono (fun _ _ lawful => lawful) ?_
  rintro h (fault | e | variant) cleared
  · exact off_spares cleared.cleared
  · exact off_spares cleared.cleared
  · exact cleared.cleared

theorem isEnabled_spares : (isEnabled settings flag subject organization).Meets Request.Spares
    (fun h _ => h.Cleared) [] := by
  unfold isEnabled
  rw [meets_bind]
  refine variant_spares.mono (fun _ _ lawful => lawful) ?_
  rintro h (fault | name) cleared
  · exact cleared
  · exact cleared

end Flag

theorem Service.program_spares (settings : Settings) (service : Service) :
    (service.program settings).Meets Request.Spares (fun h _ => h.Cleared) [] := by
  cases service
  all_goals
    rw [program, meets_map]
  case flagVariant => exact Flag.variant_spares
  case flagEnabled => exact Flag.isEnabled_spares
  all_goals
    apply Program.Meets.mono (fun _ _ lawful => lawful) fun _ _ cleared =>
      History.ClearedBy.cleared cleared
  case create => exact Lifecycle.create_spares
  case update => exact Lifecycle.update_spares
  case start => exact Lifecycle.start_spares
  case stop => exact Lifecycle.stop_spares
  case get => exact Lifecycle.get_spares
  case list => exact Lifecycle.list_spares
  case recordMetric => exact Lifecycle.recordMetric_spares
  case results => exact Lifecycle.results_spares
  case assignmentCounts => exact Lifecycle.assignmentCounts_spares
  case assign => exact assign_spares History.idle_nil

theorem Request.writes_of_wrote {c : Call} {reply : Except Fault c.Reply}
    (wrote : Exchange.wrote ⟨.call c, reply⟩ = true) : (Request.call c).Writes := by
  cases c with
  | createExperiment | updateExperiment | createAssignment | recordMetric => trivial
  | _ => cases wrote

namespace Workplace

variable {h : History} {w : Workplace} {r : Request}

structure Spared (h : History) (w : Workplace) : Prop where
  kept : w.exchanges = h
  single : w.unit.pending.length ≤ 1
  clear : h.Idle → w.unit.pending = []

theorem Spared.of_unit {x : Exchange} {w' : Workplace} (spared : w.Spared h)
    (silent : x.concludes = false) (kept : w'.exchanges = x :: h) (unit : w'.unit = w.unit) :
    w'.Spared (x :: h) where
  kept := kept
  single := unit ▸ spared.single
  clear idle := by
    rw [History.idle_cons, silent] at idle
    rw [unit]
    exact spared.clear (idle.resolve_left nofun).2

theorem Spared.of_empty {x : Exchange} {w' : Workplace} (kept : w'.exchanges = x :: h)
    (empty : w'.unit.pending = []) : w'.Spared (x :: h) where
  kept := kept
  single := by simp [empty]
  clear _ := empty

theorem Spared.reply (spared : w.Spared h) (lawful : r.Spares h) :
    (reply r w).2.Spared (⟨r, (reply r w).1⟩ :: h) := by
  have kept : (Workplace.reply r w).2.exchanges = ⟨r, (Workplace.reply r w).1⟩ :: h :=
    congrArg (_ :: ·) spared.kept
  cases r with
  | call c =>
    cases wrote : Exchange.wrote ⟨.call c, (Workplace.reply (.call c) w).1⟩ with
    | false =>
      have same := Request.perform_call_silent wrote
      exact spared.of_unit rfl kept (congrArg Prod.snd same)
    | true =>
      have empty := spared.clear (lawful (Request.writes_of_wrote wrote))
      obtain ⟨reply, s', u', done, -, unit⟩ :=
        Request.perform_call c (w.chances 0) w.store w.unit
      have few : u'.pending.length ≤ 1 := by
        obtain rfl | ⟨told, -, rfl⟩ := unit
        · exact spared.single
        · unfold UnitOfWork.remember
          split
          · rw [empty, List.append_nil]
            exact Option.length_toList_le
          · exact spared.single
      refine ⟨kept, ?_, fun idle => ?_⟩
      · have left : (Workplace.reply (.call c) w).2.unit = u' := by
          simp only [Workplace.reply, done]
        rw [left]
        exact few
      · rw [History.idle_cons, wrote] at idle
        exact absurd idle (by simp)
  | commit => exact .of_empty kept rfl
  | rollback =>
    refine .of_empty kept ?_
    simp only [Workplace.reply, Request.perform_rollback_eq]
    exact UnitOfWork.pending_rollback_of_single spared.single w.store
  | _ => exact spared.of_unit rfl kept rfl

end Workplace

open UnitOfWork in
/-- Rollbacks one after the other perform each step of a journal once, the latest write first. One
that breaks down has dropped the step that did and those of later writes, and leaves the others;
as soon as there were more calls than breakdowns none is left, and further calls take nothing back.
A service that starts with nothing pending ends so, whatever breaks down but the report of a storage
failure. -/
theorem undo_steps_run_once :
    (∀ (σ : Type) (attempt : Undo → σ → Option Fault × σ),
      (∀ (u : UnitOfWork) (s : σ),
        ((u.rollback attempt s).1 = .ok () → (u.rollback attempt s).2.1.pending = [] ∧
          faults attempt u.pending s = []) ∧
        ∀ fault, (u.rollback attempt s).1 = .error fault → ∃ taken failing kept,
          u.pending = taken ++ failing :: kept ∧ faults attempt taken s = [] ∧
          (attempt failing (performed attempt taken s).2).1 = some fault ∧
          (u.rollback attempt s).2.1.pending = kept ∧
          (u.rollback attempt s).2.2 = (performed attempt (taken ++ [failing]) s).2) ∧
      ∀ (writes : List Undo) (s : σ) (n : Nat), ∃ reports u record s',
        rollbacksInTurn attempt n (journal writes) s = (reports, u, s') ∧
        rollbacksInTurn (traced attempt) n (journal writes) ([], s) = (reports, u, record, s') ∧
        record ++ u.pending = writes.reverse ∧ s' = (performed attempt record s).2 ∧
        ((faults attempt writes.reverse s).length < n →
          u.pending = [] ∧ record = writes.reverse ∧ ∀ m, rollbacksInTurn attempt m u s' =
            (List.replicate m (.ok ()), { u with rollbacks := u.rollbacks + m }, s'))) ∧
    ∀ (settings : Settings) (service : Service) (store : Store) (unit : UnitOfWork)
      (chances : Nat → Chance), unit.pending = [] →
      let w := ((service.program settings).run Workplace.reply { store, unit, chances }).2
      ¬ w.exchanges.Unreported → w.unit.pending = [] := by
  refine ⟨fun σ attempt => ⟨fun u s => ?_, fun writes s n => ?_⟩, ?_⟩
  · have unwinds := unwinds attempt u.pending s
    rcases done : unwind attempt u.pending s with ⟨⟨fault, left⟩, s'⟩
    rw [done] at unwinds
    simp only [rollback, done]
    cases unwinds with
    | returned whole => exact ⟨fun _ => ⟨rfl, whole⟩, by rintro _ ⟨⟩⟩
    | threw taken failing _ fault split whole broke =>
      refine ⟨by rintro ⟨⟩, ?_⟩
      rintro _ ⟨⟩
      exact ⟨taken, failing, left, split, whole, broke, rfl, rfl⟩
  · obtain ⟨record, same, split, state, drained⟩ :=
      record_append_pending attempt n (journal writes) s
    rw [pending_journal] at split drained
    refine ⟨_, _, record, _, rfl, same, split, state, fun few => ?_⟩
    have empty := drained few
    rw [empty, List.append_nil] at split
    exact ⟨empty, split, fun m => rollbacksInTurn_of_empty empty m _⟩
  · intro settings service store unit chances empty w reported
    have spared : Workplace.Spared [] { store, unit, chances } :=
      ⟨rfl, by simp [empty], fun _ => empty⟩
    obtain ⟨h, told, idle | unreported⟩ := (service.program_spares settings).run
      Workplace.Spared (fun _ _ _ lawful told => told.reply lawful) spared
    · exact told.clear idle
    · rw [← told.kept] at unreported
      exact absurd unreported reported

open UnitOfWork in
theorem undo_steps_run_once_failing :
    let attempt (undo : Undo) (t : Nat × Store) : Option Fault × Nat × Store :=
      if t.1 = 1 then (none, 2, undo.perform t.2) else (some (.reported "down"), t.1 + 1, t.2)
    let writes : List Undo :=
      [.eraseAssignment ⟨1⟩ ⟨7⟩, .eraseObservation 4, .eraseAssignment ⟨1⟩ ⟨8⟩]
    let draft : Draft :=
      { name := "colour", variants := .ofList [("blue", Json.null), ("green", Json.null)] }
    let chances : Nat → Chance := fun n =>
      { event := if n = 4 then some (.reported "down") else none, undo := some (.reported "down")
        id := ⟨1⟩ }
    let w := (((Service.create draft ⟨2⟩).program {}).run Workplace.reply
      { store := {}, unit := {}, chances }).2
    (faults attempt writes.reverse (0, {})).length < 3 ∧
      (rollbacksInTurn attempt 3 (journal writes) (0, {})).2.1.pending = [] ∧
      ¬ w.exchanges.Unreported ∧ (w.store.experimentById ⟨1⟩).isSome = true ∧
      w.unit.rollbacks = 1 ∧ w.unit.pending = [] := by
  intro attempt writes draft chances w
  have few : (faults attempt writes.reverse (0, {})).length < 3 := by decide +kernel
  have reported : ¬ w.exchanges.Unreported := by decide +kernel
  obtain ⟨turns, services⟩ := undo_steps_run_once
  obtain ⟨reports, u, record, s', ran, -, -, -, drained⟩ :=
    (turns (Nat × Store) attempt).2 writes (0, {}) 3
  refine ⟨few, ?_, reported, by decide +kernel, by decide +kernel, ?_⟩
  · rw [ran]
    exact (drained few).1
  · exact services {} (.create draft ⟨2⟩) {} {} chances rfl reported

end SplitTest
