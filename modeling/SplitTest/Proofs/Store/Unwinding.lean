import Mathlib.Data.List.ReduceOption
import SplitTest.Proofs.Store.Requests
import SplitTest.Rehearsal.World

/-!
Rollbacks whose steps may break down, one after the other. Each call goes on where the last one
broke off, so that each step is performed once, the latest write first.
-/

namespace SplitTest

namespace UnitOfWork

variable {σ : Type}

def rollback (attempt : Undo → σ → Option Fault × σ) (u : UnitOfWork) (s : σ) :
    Except Fault Unit × UnitOfWork × σ :=
  let ((fault, pending), s) := unwind attempt u.pending s
  (Chance.reply fault, { u with pending, rollbacks := u.rollbacks + 1 }, s)

def rollbacksInTurn (attempt : Undo → σ → Option Fault × σ) :
    Nat → UnitOfWork → σ → List (Except Fault Unit) × UnitOfWork × σ
  | 0, u, s => ([], u, s)
  | n + 1, u, s =>
    let (report, u, s) := u.rollback attempt s
    let (reports, u, s) := rollbacksInTurn attempt n u s
    (report :: reports, u, s)

def performed (attempt : Undo → σ → Option Fault × σ) :
    List Undo → σ → List (Option Fault) × σ
  | [], s => ([], s)
  | undo :: rest, s =>
    let (fault, s) := attempt undo s
    let (faults, s) := performed attempt rest s
    (fault :: faults, s)

def faults (attempt : Undo → σ → Option Fault × σ) (steps : List Undo) (s : σ) : List Fault :=
  (performed attempt steps s).1.reduceOption

def traced (attempt : Undo → σ → Option Fault × σ) (undo : Undo) :
    List Undo × σ → Option Fault × List Undo × σ
  | (record, s) =>
    let (fault, s) := attempt undo s
    (fault, record ++ [undo], s)

def journal (writes : List Undo) : UnitOfWork :=
  writes.foldl (fun u undo => u.remember (some undo)) {}

variable {attempt : Undo → σ → Option Fault × σ} {pending steps : List Undo} {s s' : σ}
  {fault : Fault} {undo : Undo} {record : List Undo} {u : UnitOfWork} {n : Nat}

theorem pending_foldl_remember (writes : List Undo) (journaled : u.journaled = true) :
    (writes.foldl (fun u undo => u.remember (some undo)) u).pending =
      writes.reverse ++ u.pending := by
  induction writes generalizing u with
  | nil => rfl
  | cons undo writes ih =>
    rw [List.foldl_cons, ih (by rw [remember_journaled, journaled]), remember_pending journaled,
      List.reverse_cons, List.append_assoc]
    rfl

theorem pending_journal (writes : List Undo) : (journal writes).pending = writes.reverse := by
  rw [journal, pending_foldl_remember writes rfl, List.append_nil]

theorem performed_cons (attempted : attempt undo s = (none, s')) :
    (performed attempt (undo :: steps) s).2 = (performed attempt steps s').2 := by
  simp only [performed, attempted]

theorem faults_cons (attempted : attempt undo s = (none, s')) :
    faults attempt (undo :: steps) s = faults attempt steps s' := by
  simp only [faults, performed, attempted, List.reduceOption_cons_of_none]

theorem performed_append (first second : List Undo) (s : σ) :
    performed attempt (first ++ second) s =
      ((performed attempt first s).1 ++ (performed attempt second (performed attempt first s).2).1,
        (performed attempt second (performed attempt first s).2).2) := by
  induction first generalizing s with
  | nil => rfl
  | cons undo first ih => simp only [List.cons_append, performed, ih]

theorem faults_append (first second : List Undo) (s : σ) : faults attempt (first ++ second) s =
    faults attempt first s ++ faults attempt second (performed attempt first s).2 := by
  rw [faults, performed_append, List.reduceOption_append]
  rfl

theorem faults_singleton (broke : (attempt undo s).1 = some fault) :
    faults attempt [undo] s = [fault] := by
  simp only [faults, performed, broke]
  rfl

/-- How a rollback ends. It performs all steps, or those up to one that breaks down; that one and
those before it are gone. -/
inductive Unwinds (attempt : Undo → σ → Option Fault × σ) (pending : List Undo) (s : σ) :
    Option Fault × List Undo → σ → Prop
  | returned (whole : faults attempt pending s = []) :
      Unwinds attempt pending s (none, []) (performed attempt pending s).2
  | threw (taken : List Undo) (failing : Undo) (kept : List Undo) (fault : Fault)
      (split : pending = taken ++ failing :: kept) (whole : faults attempt taken s = [])
      (broke : (attempt failing (performed attempt taken s).2).1 = some fault) :
      Unwinds attempt pending s (some fault, kept) (performed attempt (taken ++ [failing]) s).2

theorem Unwinds.cons {result : Option Fault × List Undo} {t : σ}
    (attempted : attempt undo s = (none, s')) (unwinds : Unwinds attempt pending s' result t) :
    Unwinds attempt (undo :: pending) s result t := by
  cases unwinds with
  | returned whole =>
    rw [← performed_cons attempted]
    exact .returned ((faults_cons attempted).trans whole)
  | threw taken failing kept fault split whole broke =>
    rw [← performed_cons attempted] at broke ⊢
    refine .threw (undo :: taken) failing kept fault ?_ ((faults_cons attempted).trans whole) broke
    rw [split, List.cons_append]

theorem unwinds (attempt : Undo → σ → Option Fault × σ) (pending : List Undo) (s : σ) :
    Unwinds attempt pending s (unwind attempt pending s).1 (unwind attempt pending s).2 := by
  induction pending generalizing s with
  | nil => exact .returned rfl
  | cons undo pending ih =>
    rcases attempted : attempt undo s with ⟨_ | fault, s'⟩
    · rw [unwind, attempted]
      exact (ih s').cons attempted
    · have broke : (attempt undo s).1 = some fault := congrArg Prod.fst attempted
      have left : (performed attempt [undo] s).2 = s' := congrArg Prod.snd attempted
      rw [unwind, attempted, ← left]
      exact .threw [] undo pending fault rfl rfl broke

theorem rollbacksInTurn_of_empty (empty : u.pending = []) (n : Nat) (s : σ) :
    rollbacksInTurn attempt n u s =
      (List.replicate n (.ok ()), { u with rollbacks := u.rollbacks + n }, s) := by
  induction n generalizing u with
  | zero => rfl
  | succ n ih =>
    have once : u.rollback attempt s = (.ok (), { u with rollbacks := u.rollbacks + 1 }, s) := by
      simp [rollback, empty, unwind, Chance.reply]
    have rest := ih (u := { u with rollbacks := u.rollbacks + 1 }) empty
    simp only [rollbacksInTurn, once, rest, List.replicate_succ, Nat.add_assoc, Nat.add_comm 1]

theorem rollbacksInTurn_splits (attempt : Undo → σ → Option Fault × σ) (n : Nat)
    (u : UnitOfWork) (s : σ) :
    ∃ taken kept, u.pending = taken ++ kept ∧
      (rollbacksInTurn attempt n u s).2.1.pending = kept ∧
      (rollbacksInTurn attempt n u s).2.2 = (performed attempt taken s).2 ∧
      ((faults attempt u.pending s).length < n → kept = []) := by
  induction n generalizing u s with
  | zero => exact ⟨[], u.pending, rfl, rfl, rfl, nofun⟩
  | succ n ih =>
    have unwinds := unwinds attempt u.pending s
    rcases done : unwind attempt u.pending s with ⟨⟨fault, left⟩, s'⟩
    rw [done] at unwinds
    have once : u.rollback attempt s = (Chance.reply fault,
        { u with pending := left, rollbacks := u.rollbacks + 1 }, s') := by
      simp only [rollback, done]
    obtain ⟨taken, kept, split, pending, state, drained⟩ :=
      ih { u with pending := left, rollbacks := u.rollbacks + 1 } s'
    simp only [rollbacksInTurn, once]
    cases unwinds with
    | returned whole =>
      obtain ⟨rfl, rfl⟩ := List.append_eq_nil_iff.mp split.symm
      exact ⟨u.pending, [], (List.append_nil _).symm, pending, state, fun _ => rfl⟩
    | threw first failing _ fault split' whole broke =>
      refine ⟨first ++ [failing] ++ taken, kept, ?_, pending, ?_, fun few => drained ?_⟩
      · rw [split', List.append_assoc, List.append_assoc, ← split]
        rfl
      · rw [state, performed_append (first ++ [failing])]
      · have parts : u.pending = (first ++ [failing]) ++ left := by
          rw [split', List.append_assoc]
          rfl
        rw [parts, faults_append, faults_append, whole, faults_singleton broke,
          List.length_append] at few
        exact Nat.lt_of_succ_lt_succ (by simpa [Nat.add_comm] using few)

theorem pending_rollback_of_single (single : u.pending.length ≤ 1) (s : σ) :
    (u.rollback attempt s).2.1.pending = [] := by
  have unwinds := unwinds attempt u.pending s
  rcases done : unwind attempt u.pending s with ⟨⟨fault, left⟩, s'⟩
  rw [done] at unwinds
  simp only [rollback, done]
  cases unwinds with
  | returned => rfl
  | threw taken failing kept fault split =>
    rw [split, List.length_append, List.length_cons] at single
    exact List.length_eq_zero_iff.mp (by omega)

section Records

theorem performed_traced (steps record : List Undo) (s : σ) :
    performed (traced attempt) steps (record, s) =
      ((performed attempt steps s).1, record ++ steps, (performed attempt steps s).2) := by
  induction steps generalizing record s with
  | nil => simp only [performed, List.append_nil]
  | cons undo steps ih =>
    simp only [performed, traced, ih, List.append_assoc, List.cons_append, List.nil_append]

theorem faults_traced (steps record : List Undo) (s : σ) :
    faults (traced attempt) steps (record, s) = faults attempt steps s := by
  rw [faults, performed_traced, faults]

theorem unwind_traced (attempt : Undo → σ → Option Fault × σ) (pending record : List Undo)
    (s : σ) :
    ∃ record', unwind (traced attempt) pending (record, s) =
      ((unwind attempt pending s).1, record', (unwind attempt pending s).2) := by
  induction pending generalizing record s with
  | nil => exact ⟨record, rfl⟩
  | cons undo pending ih =>
    rcases attempted : attempt undo s with ⟨_ | fault, s'⟩
    · simp only [unwind, traced, attempted]
      exact ih _ s'
    · simp only [unwind, traced, attempted]
      exact ⟨_, rfl⟩

theorem rollbacksInTurn_traced (attempt : Undo → σ → Option Fault × σ) (n : Nat)
    (u : UnitOfWork) (record : List Undo) (s : σ) :
    ∃ record', rollbacksInTurn (traced attempt) n u (record, s) =
      ((rollbacksInTurn attempt n u s).1, (rollbacksInTurn attempt n u s).2.1, record',
        (rollbacksInTurn attempt n u s).2.2) := by
  induction n generalizing u record s with
  | zero => exact ⟨record, rfl⟩
  | succ n ih =>
    obtain ⟨record', unwound⟩ := unwind_traced attempt u.pending record s
    simp only [rollbacksInTurn, rollback, unwound]
    obtain ⟨record'', rest⟩ := ih _ record' _
    rw [rest]
    exact ⟨record'', rfl⟩

theorem record_append_pending (attempt : Undo → σ → Option Fault × σ) (n : Nat) (u : UnitOfWork)
    (s : σ) :
    ∃ record, rollbacksInTurn (traced attempt) n u ([], s) =
        ((rollbacksInTurn attempt n u s).1, (rollbacksInTurn attempt n u s).2.1, record,
          (rollbacksInTurn attempt n u s).2.2) ∧
      record ++ (rollbacksInTurn attempt n u s).2.1.pending = u.pending ∧
      (rollbacksInTurn attempt n u s).2.2 = (performed attempt record s).2 ∧
      ((faults attempt u.pending s).length < n →
        (rollbacksInTurn attempt n u s).2.1.pending = []) := by
  obtain ⟨record, same⟩ := rollbacksInTurn_traced attempt n u [] s
  obtain ⟨taken, kept, split, pending, state, drained⟩ :=
    rollbacksInTurn_splits (traced attempt) n u ([], s)
  rw [same, performed_traced, List.nil_append] at state
  obtain ⟨rfl, state⟩ := Prod.mk.inj state
  rw [same] at pending
  rw [faults_traced] at drained
  refine ⟨record, same, ?_, state, fun few => ?_⟩
  · rw [pending, ← split]
  · rw [pending, drained few]

end Records

end UnitOfWork

theorem Request.perform_rollback_eq (chance : Chance) (s : Store) (u : UnitOfWork) :
    Request.rollback.perform chance s u = ((u.rollback chance.attempt s).1,
      (u.rollback chance.attempt s).2.2, (u.rollback chance.attempt s).2.1) := rfl

theorem Rehearsal.World.rollback_eq {name : String} {w : World} {u : UnitOfWork}
    (found : w.units[name]? = some u) (journaled : u.journaled = true) :
    w.rollback name = ((u.rollback World.attempt w).1, { (u.rollback World.attempt w).2.2 with
      units := (u.rollback World.attempt w).2.2.units.insert name
        (u.rollback World.attempt w).2.1 }) := by
  simp only [World.rollback, found, journaled, if_true, UnitOfWork.rollback]
  rcases (UnitOfWork.unwind World.attempt u.pending w).1.1 with _ | fault
  · rfl
  · rfl

end SplitTest
