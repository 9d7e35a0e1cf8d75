import SplitTest.Proofs.Flag.Paging
import SplitTest.Proofs.Service.Tenancy
import SplitTest.Proofs.Store.Tenants

/-!
One organization against all others. A service that keeps to an organization does the same over any
two stores that hold the same of it: it answers the same, and adds the same assignment, if any, to
both of them, which is all that it does.
-/

namespace SplitTest

variable {o : Uuid} {s t : Store} {added : Option Assignment} {h : History} {u u' : UnitOfWork}
  {chance : Chance}

structure UnitOfWork.Beside (o : Uuid) (s : Store) (added : Option Assignment) (h : History)
    (u u' : UnitOfWork) : Prop where
  journaled : u.journaled = u'.journaled
  pending : u.pending = u'.pending
  due : u.pending = [] ∨
    ∃ a, added = some a ∧ u.pending = [.eraseAssignment a.experiment a.subject]
  fresh : ∀ a, added = some a → s.Owns o a.experiment ∧ s.assignment a.experiment a.subject = none
  unwritten : h.Unwritten → added = none
  named : ∀ id, h.Named o id → s.Owns o id

theorem Request.perform_told {c : Call} {reply : c.Reply} (whole : chance.call = none)
    (done : c.perform s = (.ok reply, s)) (read : c.undo? s reply = none) :
    (call c).perform chance s u = (.ok reply, s, u) := by
  simp only [perform, whole, done, read, UnitOfWork.remember_none]

theorem Request.perform_rollback_adding {a : Assignment}
    (due : u.pending = [.eraseAssignment a.experiment a.subject])
    (fresh : s.assignment a.experiment a.subject = none) :
    rollback.perform chance (s.adding (some a)) u = (Chance.reply chance.undo,
      s.adding (if chance.undo = none then none else some a),
      { u with pending := [], rollbacks := u.rollbacks + 1 }) := by
  cases broken : chance.undo with
  | none =>
    simp only [perform, due, UnitOfWork.unwind, Chance.attempt, broken, Undo.perform,
      Store.eraseAssignment_adding fresh, if_true]
  | some fault =>
    simp only [perform, due, UnitOfWork.unwind, Chance.attempt, broken, reduceCtorEq, if_false]

def Request.Parallel (o : Uuid) (s t : Store) (added : Option Assignment) (h : History)
    (u u' : UnitOfWork) (chance : Chance) (r : Request) : Prop :=
  ∃ told added' v v', r.perform chance (s.adding added) u = (told, s.adding added', v) ∧
    r.perform chance (t.adding added) u' = (told, t.adding added', v') ∧
      UnitOfWork.Beside o s added' (⟨r, told⟩ :: h) v v'

namespace UnitOfWork.Beside

variable (beside : Beside o s added h u u')
include beside

theorem cons {x : Exchange} (named : ∀ name e,
      x = ⟨.call (.experimentByName name o), .ok (some e)⟩ → s.Owns o e.id) :
    Beside o s added (x :: h) u u' where
  journaled := beside.journaled
  pending := beside.pending
  due := beside.due
  fresh := beside.fresh
  unwritten unwritten := beside.unwritten (History.unwritten_cons.mp unwritten).2
  named id := by
    rintro ⟨name, e, m, rfl⟩
    obtain same | m := List.mem_cons.mp m
    · exact named name e same.symm
    · exact beside.named _ ⟨name, e, m, rfl⟩

theorem other {x : Exchange}
    (other : ∀ name, x.request ≠ .call (.experimentByName name o)) :
    Beside o s added (x :: h) u u' :=
  beside.cons fun name _ same => absurd (congrArg Exchange.request same) (other name)

theorem breaks {c : Call} {fault : Fault} (broken : chance.call = some fault) :
    Request.Parallel o s t added h u u' chance (.call c) := by
  refine ⟨.error fault, added, u, u', ?_, ?_, beside.cons ?_⟩
  · simp only [Request.perform, broken]
  · simp only [Request.perform, broken]
  · intro name e same
    cases (Exchange.mk.inj same).1
    cases same

theorem reads {c : Call} {reply : c.Reply} (whole : chance.call = none)
    (done : c.perform (s.adding added) = (.ok reply, s.adding added))
    (done' : c.perform (t.adding added) = (.ok reply, t.adding added))
    (read : ∀ s, c.undo? s reply = none)
    (named : ∀ name e, (⟨.call c, .ok reply⟩ : Exchange) =
      ⟨.call (.experimentByName name o), .ok (some e)⟩ → s.Owns o e.id) :
    Request.Parallel o s t added h u u' chance (.call c) :=
  ⟨.ok reply, added, u, u', Request.perform_told whole done (read _),
    Request.perform_told whole done' (read _), beside.cons named⟩

theorem clear (unwritten : h.Unwritten) : added = none ∧ u.pending = [] := by
  have nothing := beside.unwritten unwritten
  obtain clear | ⟨a, same, -⟩ := beside.due
  · exact ⟨nothing, clear⟩
  · cases nothing.symm.trans same

theorem inserts {row : Assignment} (agree : Store.Agree o s t) (whole : chance.call = none)
    (owns : s.Owns o row.experiment) (unwritten : h.Unwritten) :
    Request.Parallel o s t added h u u' chance (.call (.createAssignment row)) := by
  obtain ⟨rfl, clear⟩ := beside.clear unwritten
  have same := agree.assignments row.experiment row.subject owns
  cases bound : s.assignment row.experiment row.subject with
  | none =>
    rw [bound] at same
    let undo : Undo := .eraseAssignment row.experiment row.subject
    refine ⟨.ok .inserted, some row, u.remember (some undo), u'.remember (some undo), ?_, ?_, ?_⟩
    · simp only [Request.perform, whole, Call.perform, Store.createAssignment_adding bound,
        Call.undo?, undo]
    · simp only [Request.perform, whole, Call.perform, Store.createAssignment_adding same.symm,
        Call.undo?, undo]
    · have written : ¬ History.Unwritten (⟨.call (.createAssignment row), .ok .inserted⟩ :: h) := by
        simp
      have told : Beside o s none (⟨.call (.createAssignment row), .ok .inserted⟩ :: h) u u' :=
        beside.other (by rintro _ ⟨⟩)
      refine ⟨?_, ?_, ?_, by rintro _ ⟨⟩; exact ⟨owns, bound⟩, (absurd · written),
        told.named⟩
      · simp [beside.journaled]
      · simp only [UnitOfWork.remember, ← beside.journaled, apply_ite UnitOfWork.pending,
          beside.pending]
      · rw [UnitOfWork.remember]
        split
        case isTrue => exact .inr ⟨row, rfl, congrArg (_ :: ·) clear⟩
        case isFalse => exact .inl clear
  | some a =>
    rw [bound] at same
    have silent (s : Store) : (Call.createAssignment row).undo? s .conflict = none := rfl
    refine beside.reads whole ?_ ?_ silent (by rintro _ _ ⟨⟩)
    · simp only [Call.perform, Store.createAssignment_taken bound]
    · simp only [Call.perform, Store.createAssignment_taken same.symm]

theorem rollsBack (agree : Store.Agree o s t) :
    Request.Parallel o s t added h u u' chance .rollback := by
  obtain clear | ⟨a, rfl, due⟩ := beside.due
  · refine ⟨.ok (), added, _, _, Request.perform_rollback clear,
      Request.perform_rollback (beside.pending ▸ clear), ?_⟩
    have rolledBack : Beside o s added (⟨.rollback, .ok ()⟩ :: h) u u' :=
      beside.other fun _ => nofun
    exact { rolledBack with }
  · obtain ⟨owns, fresh⟩ := beside.fresh a rfl
    refine ⟨_, _, _, _, Request.perform_rollback_adding due fresh,
      Request.perform_rollback_adding (beside.pending.symm.trans due)
        ((agree.assignments _ _ owns).symm.trans fresh), ?_⟩
    have told (reply : Except Fault Unit) : Beside o s (some a) (⟨.rollback, reply⟩ :: h) u u' :=
      beside.other fun _ => nofun
    cases chance.undo with
    | none =>
      exact { told _ with
        pending := rfl, due := .inl rfl, fresh := nofun, unwritten := fun _ => rfl }
    | some fault =>
      rw [if_neg (Option.some_ne_none fault)]
      exact { told _ with pending := rfl, due := .inl rfl }

theorem parallel {r : Request} (chance : Chance) (agree : Store.Agree o s t) (indexed : s.Indexed)
    (indexed' : t.Indexed) (lawful : r.Scoped o h) :
    Request.Parallel o s t added h u u' chance r := by
  cases r with
  | call c =>
    cases whole : chance.call with
    | some fault => exact beside.breaks whole
    | none =>
      cases c with
      | experimentByName name scope =>
        obtain rfl : scope = o := lawful
        obtain ⟨found, told, named⟩ := indexed.sound.experimentByName name scope
        have told' := (agree.experimentByName name indexed indexed').symm.trans told
        refine beside.reads whole (congrArg (·, s.adding added) told)
          (congrArg (·, t.adding added) told') (fun _ => rfl) ?_
        rintro name e ⟨⟩
        obtain ⟨⟨id, stored⟩, named⟩ := indexed.experimentByName_eq_some.mp told
        exact ⟨e, by rw [indexed.keyed id e stored, stored], congrArg Prod.fst named⟩
      | listExperiments scope status limit offset =>
        obtain rfl : scope = some o := lawful
        have same : t.listing (some o) status = s.listing (some o) status :=
          (agree.listing indexed indexed').symm
        refine beside.reads whole rfl ?_ (fun _ => rfl) fun _ _ => nofun
        exact congrArg (fun l : List Experiment =>
          (Except.ok ((l.drop offset.toNat).take limit.toNat), t.adding added)) same
      -- An id is asked for only after a name has led to it, so its row is in the organization.
      | experimentById id =>
        refine beside.reads whole rfl ?_ (fun _ => rfl) fun _ _ => nofun
        exact congrArg (fun e => (Except.ok e, t.adding added))
          (agree.experimentById (beside.named id lawful)).symm
      | assignment id subject =>
        refine beside.reads whole rfl ?_ (fun _ => rfl) fun _ _ => nofun
        exact congrArg (fun a => (Except.ok a, t.adding added))
          (agree.assignment_adding (beside.named id lawful)).symm
      | createAssignment row => exact beside.inserts agree whole (beside.named _ lawful.1) lawful.2
      | _ => exact lawful.elim
  | commit =>
    refine ⟨.ok (), added, u.commit, u'.commit, rfl, rfl, ?_⟩
    have committed : Beside o s added (⟨.commit, .ok ()⟩ :: h) u u' := beside.other fun _ => nofun
    exact { committed with pending := rfl, due := .inl rfl }
  | rollback => exact beside.rollsBack agree
  | emit event => exact ⟨_, added, u, u', rfl, rfl, beside.other fun _ => nofun⟩
  | now => exact ⟨_, added, u, u', rfl, rfl, beside.other fun _ => nofun⟩
  | freshId => exact ⟨_, added, u, u', rfl, rfl, beside.other fun _ => nofun⟩

end UnitOfWork.Beside

namespace Workplace

def Beside (o : Uuid) (s t : Store) (h : History) (w w' : Workplace) : Prop :=
  w.chances = w'.chances ∧ ∃ added, w.store = s.adding added ∧ w'.store = t.adding added ∧
    UnitOfWork.Beside o s added h w.unit w'.unit

theorem Beside.replied {w w' : Workplace} {r : Request} (agree : Store.Agree o s t)
    (indexed : s.Indexed) (indexed' : t.Indexed) (lawful : r.Scoped o h)
    (beside : Beside o s t h w w') : (reply r w).1 = (reply r w').1 ∧
      Beside o s t (⟨r, (reply r w).1⟩ :: h) (reply r w).2 (reply r w').2 := by
  obtain ⟨chances, added, store, store', beside⟩ := beside
  obtain ⟨told, added', v, v', done, done', beside⟩ :=
    beside.parallel (w.chances 0) agree indexed indexed' lawful
  have replied : reply r w = (told, ⟨s.adding added', v, fun n => w.chances (n + 1),
      ⟨r, told⟩ :: w.exchanges⟩) := by
    simp only [reply, store, done]
  have replied' : reply r w' = (told, ⟨t.adding added', v', fun n => w'.chances (n + 1),
      ⟨r, told⟩ :: w'.exchanges⟩) := by
    simp only [reply, store', ← chances, done']
  rw [replied, replied']
  exact ⟨rfl, by rw [chances], added', rfl, rfl, beside⟩

end Workplace

namespace System

variable {ι κ : Type} [DecidableEq ι] [DecidableEq κ]

/-- A service that keeps to an organization is replied the same over stores that hold the same of
it, whatever else they hold, and adds the same assignment in an experiment of it, if any, and
nothing else. -/
theorem run_tenants_apart (settings : Settings) (moves : List (Move ι)) (moves' : List (Move κ))
    (o : Uuid) (service : Service) (unit : UnitOfWork) (chances : Nat → Chance)
    (tenant : service.tenant? = some o) (clear : unit.pending = [])
    (served : ∀ move ∈ moves, move.Served) (served' : ∀ move ∈ moves', move.Served)
    (once : (({} : System ι).run moves).trace.FreshIds)
    (once' : (({} : System κ).run moves').trace.FreshIds)
    (agree : Store.Agree o (({} : System ι).run moves).store (({} : System κ).run moves').store) :
    let s := (({} : System ι).run moves).store
    let t := (({} : System κ).run moves').store
    let ran (store : Store) :=
      (service.program settings).run Workplace.reply { store, unit, chances }
    (ran s).1 = (ran t).1 ∧
      ∃ added, (ran s).2.store = s.adding added ∧ (ran t).2.store = t.adding added ∧
        ∀ a, added = some a → s.Owns o a.experiment ∧ t.Owns o a.experiment ∧
          s.assignment a.experiment a.subject = none ∧
            t.assignment a.experiment a.subject = none := by
  intro s t ran
  have indexed : s.Indexed := (naming_run served once).named.indexed
  have indexed' : t.Indexed := (naming_run served' once').named.indexed
  have beside : Workplace.Beside o s t [] { store := s, unit, chances }
      { store := t, unit, chances } :=
    ⟨rfl, none, rfl, rfl, rfl, rfl, .inl clear, nofun, fun _ => rfl, by rintro _ ⟨_, _, ⟨⟩, _⟩⟩
  obtain ⟨same, h, -, added, store, store', beside⟩ :=
    (Service.program_scoped settings tenant).run_both (Workplace.Beside o s t)
      (fun _ _ _ _ lawful beside => beside.replied agree indexed indexed' lawful) beside
  refine ⟨same, added, store, store', fun a given => ?_⟩
  obtain ⟨owns, fresh⟩ := beside.fresh a given
  refine ⟨owns, agree.owns.mp owns, fresh, ?_⟩
  exact (agree.assignments _ _ owns).symm.trans fresh

theorem run_tenants_apart_crowded :
    let s := (({} : System (Fin 3)).run (launching 0 "colour" ⟨9⟩ ⟨1⟩)).store
    let t := (({} : System (Fin 3)).run
      (launching 0 "shape" ⟨8⟩ ⟨2⟩ ++ launching 0 "colour" ⟨9⟩ ⟨1⟩)).store
    let ran (store : Store) := ((Service.flagVariant "colour" ⟨7⟩ (some ⟨9⟩)).program {}).run
      Workplace.reply { store, unit := {}, chances := fun _ => {} }
    Store.Agree ⟨9⟩ s t ∧ t.Owns ⟨8⟩ ⟨2⟩ ∧ (ran s).1 = (ran t).1 ∧
      ∃ added, (ran s).2.store = s.adding added ∧ (ran t).2.store = t.adding added := by
  intro s t ran
  have served (name : String) (o id : Uuid) : ∀ move ∈ launching 0 name o id, move.Served := by
    simp [launching, asking, going, Move.Served]
  have agree : Store.Agree ⟨9⟩ s t := by
    apply Store.agree_of_isTwin (built_run .empty).keyed (built_run .empty).keyed
    show s.isTwin ⟨9⟩ ⟨1⟩ t = true
    decide +kernel
  have foreign : t.Owns ⟨8⟩ ⟨2⟩ := by
    apply Store.owns_of_check
    decide +kernel
  obtain ⟨same, added, store, store', -⟩ := run_tenants_apart {} _ _ ⟨9⟩
    (.flagVariant "colour" ⟨7⟩ (some ⟨9⟩)) {} (fun _ => {}) rfl rfl (served _ _ _)
    (List.forall_mem_append.mpr ⟨served _ _ _, served _ _ _⟩) (by decide +kernel)
    (by decide +kernel) agree
  exact ⟨agree, foreign, same, added, store, store'⟩

/-- A look-up in an organization, through a unit of work that an insertion of another one is pending
in, takes that back. -/
theorem pending_insert_crosses :
    let moves := leaving 0 "shape" ⟨8⟩ ⟨2⟩
    let left := ({} : System (Fin 3)).run moves
    let looked := (Flag.variant {} "colour" ⟨7⟩ (some ⟨9⟩)).run Workplace.reply
      { store := left.store, unit := (left.clients 0).unit, chances := fun _ => {} }
    (∀ move ∈ moves, move.Served) ∧ left.trace.FreshIds ∧ left.store.Owns ⟨8⟩ ⟨2⟩ ∧
      looked.1.toOption = some none ∧ looked.2.store.experimentById ⟨2⟩ = none := by
  intro moves left looked
  have served : ∀ move ∈ moves, move.Served := by
    simp [moves, leaving, asking, going, Move.Served]
  have foreign : left.store.Owns ⟨8⟩ ⟨2⟩ := by
    apply Store.owns_of_check
    decide +kernel
  have gone : (looked.2.store.experimentById ⟨2⟩).isNone = true := by decide +kernel
  exact ⟨served, by decide +kernel, foreign, by decide +kernel, Option.isNone_iff_eq_none.mp gone⟩

end System

end SplitTest
