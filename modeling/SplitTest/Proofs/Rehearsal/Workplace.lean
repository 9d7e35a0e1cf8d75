import SplitTest.Rehearsal.World
import SplitTest.Workplace

namespace SplitTest.Rehearsal.World

structure Calm (w : World) : Prop where
  hooks : ∀ m, w.hooks m = none
  conflicts : ∀ m, w.conflicts m = 0
  observer : ∀ n, w.failing .observer n = none
  undo : ∀ u m, undoMethod? u = some m → ∀ n, w.failing m n = none

structure Mirrors {ε : Type} (name : String) (got : ε × World) (performed : ε × Store × UnitOfWork) :
    Prop where
  reply : got.1 = performed.1
  store : got.2.store = performed.2.1
  unit : got.2.units[name]? = some performed.2.2
  journaled : performed.2.2.journaled = true
  calm : got.2.Calm

variable {w : World} {name : String} {unit : UnitOfWork} {interlude : List Step → World → World}

theorem Calm.congr {w' : World} (calm : w.Calm) (hooks : w'.hooks = w.hooks)
    (conflicts : w'.conflicts = w.conflicts) (failing : w'.failing = w.failing) : w'.Calm where
  hooks := by
    rw [hooks]
    exact calm.hooks
  conflicts := by
    rw [conflicts]
    exact calm.conflicts
  observer := by
    rw [failing]
    exact calm.observer
  undo := by
    rw [failing]
    exact calm.undo

theorem Calm.visit (calm : w.Calm) (m : Method) : w.visit interlude m = w := by
  rw [World.visit, calm.hooks]

theorem Calm.strike (calm : w.Calm) (m : Method) : (w.strike m).2.Calm where
  hooks := calm.hooks
  conflicts := calm.conflicts
  observer _ := calm.observer _
  undo u m named _ := calm.undo u m named _

theorem Calm.attempt (calm : w.Calm) (u : Undo) :
    (w.attempt u).1 = none ∧ (w.attempt u).2.Calm ∧ (w.attempt u).2.units = w.units ∧
      (w.attempt u).2.store = u.perform w.store := by
  cases named : undoMethod? u with
  | none =>
    have done : w.attempt u = (none, { w with store := u.perform w.store }) := by
      simp only [World.attempt, named, strike?]
    rw [done]
    exact ⟨rfl, calm.congr rfl rfl rfl, rfl, rfl⟩
  | some m =>
    have done : w.attempt u =
        (none, { (w.strike m).2 with store := u.perform w.store }) := by
      simp only [World.attempt, named, strike?, World.strike, calm.undo u m named]
    rw [done]
    exact ⟨rfl, (calm.strike m).congr rfl rfl rfl, rfl, rfl⟩

theorem Calm.unwind (calm : w.Calm) (pending : List Undo) :
    let (ended, w') := UnitOfWork.unwind World.attempt pending w
    ended = (none, []) ∧ w'.Calm ∧ w'.units = w.units ∧
      UnitOfWork.unwind (Chance.attempt {}) pending w.store = (ended, w'.store) := by
  induction pending generalizing w with
  | nil => exact ⟨rfl, calm, rfl, rfl⟩
  | cons u pending ih =>
    obtain ⟨whole, after, units, store⟩ := calm.attempt u
    rcases done : w.attempt u with ⟨fault, w'⟩
    rw [done] at whole after units store
    cases whole
    rw [UnitOfWork.unwind, UnitOfWork.unwind, done]
    dsimp only [Chance.attempt]
    rw [← units, ← store]
    exact ih after

theorem Calm.answer (calm : w.Calm) (found : w.units[name]? = some unit)
    (journaled : unit.journaled = true) (c : Call) :
    Mirrors name (w.answer (some name) c) ((Request.call c).perform {} w.store unit) := by
  rcases done : c.perform w.store with ⟨fault | reply, s'⟩
  · simp only [World.answer, Request.perform, done]
    exact ⟨rfl, rfl, found, journaled, calm.congr rfl rfl rfl⟩
  · simp only [World.answer, Request.perform, done, World.remember]
    refine ⟨rfl, rfl, ?_, ?_, calm.congr rfl rfl rfl⟩
    · dsimp only
      rw [Std.ExtTreeMap.getElem?_modify_self, found]
      rfl
    · rw [UnitOfWork.remember, if_pos journaled]
      exact journaled

theorem Calm.call_eq (calm : w.Calm) (found : w.units[name]? = some unit)
    (journaled : unit.journaled = true) {c : Call} {m : Method}
    (named : method? (World.journaled (some name) w) c = some m) (whole : w.failing m 0 = none) :
    w.call interlude (some name) c = (w.strike m).2.answer (some name) c := by
  have struck := calm.strike m
  have same : w.strike m = (none, (w.strike m).2) := by simp only [World.strike, whole]
  have mirrors := struck.answer found journaled c
  have unclashed : ((w.strike m).2.clash m).1 = false := by simp [clash, struck.conflicts]
  rcases clashed : (w.strike m).2.clash m with ⟨_ | _, w₁⟩
  case true =>
    rw [clashed] at unclashed
    cases unclashed
  unfold World.call
  rw [named]
  dsimp only
  rw [same]
  dsimp only
  rw [struck.visit, ite_self, clashed]
  rcases answered : (w.strike m).2.answer (some name) c with ⟨fault | reply, w₂⟩
  all_goals
    rw [answered] at mirrors
    have unvisited : w₂.visit interlude m = w₂ := mirrors.calm.visit m
    cases c.conflict? <;> simp only [unvisited, ite_self]

theorem Calm.call (calm : w.Calm) (found : w.units[name]? = some unit)
    (journaled : unit.journaled = true) (c : Call) : ∃ chance : Chance, chance.event = none ∧
      Mirrors name (w.call interlude (some name) c)
        ((Request.call c).perform chance w.store unit) := by
  cases named : method? (World.journaled (some name) w) c with
  | none =>
    have done : w.call interlude (some name) c = w.answer (some name) c := by
      simp only [World.call, named]
    rw [done]
    exact ⟨{}, rfl, calm.answer found journaled c⟩
  | some m =>
    cases planned : w.failing m 0 with
    | none =>
      rw [calm.call_eq found journaled named planned]
      exact ⟨{}, rfl, (calm.strike m).answer found journaled c⟩
    | some fault =>
      have done : w.call interlude (some name) c = (.error fault, (w.strike m).2) := by
        simp only [World.call, named, World.strike, planned]
      rw [done]
      exact ⟨{ call := some fault }, rfl, rfl, rfl, found, journaled, calm.strike m⟩

theorem Calm.reply (calm : w.Calm) (found : w.units[name]? = some unit)
    (journaled : unit.journaled = true) (interlude : List Step → World → World) (r : Request) :
    ∃ chance : Chance, chance.event = none ∧
      Mirrors name (World.reply interlude name r w) (r.perform chance w.store unit) := by
  cases r with
  | call c => exact calm.call found journaled c
  | commit =>
    have done : w.commit name = (.ok (), { w with units := w.units.insert name unit.commit }) := by
      simp only [World.commit, found, journaled, if_true]
    refine ⟨{}, rfl, ?_⟩
    rw [World.reply, done]
    exact ⟨rfl, rfl, Std.ExtTreeMap.getElem?_insert_self, journaled, calm.congr rfl rfl rfl⟩
  | rollback =>
    have unwound := calm.unwind unit.pending
    rcases done : UnitOfWork.unwind World.attempt unit.pending w with ⟨⟨fault, pending⟩, w'⟩
    rw [done] at unwound
    obtain ⟨⟨⟩, after, units, same⟩ := unwound
    have rolled : w.rollback name = (.ok (), { w' with
        units := w'.units.insert name
          { unit with pending := [], rollbacks := unit.rollbacks + 1 } }) := by
      simp only [World.rollback, found, journaled, if_true, done, ofFault?]
    refine ⟨{}, rfl, ?_⟩
    rw [World.reply, rolled, Request.perform, same]
    exact ⟨rfl, rfl, Std.ExtTreeMap.getElem?_insert_self, journaled, after.congr rfl rfl rfl⟩
  | emit event =>
    have done : w.emit event =
        (.ok (), { (w.strike .observer).2 with events := w.events ++ [event] }) := by
      simp only [World.emit, World.strike, calm.observer]
    refine ⟨{}, rfl, ?_⟩
    rw [World.reply, done]
    exact ⟨rfl, rfl, found, journaled, (calm.strike .observer).congr rfl rfl rfl⟩
  | now => exact ⟨{ now := w.now }, rfl, rfl, rfl, found, journaled, calm⟩
  | freshId =>
    have drawn : w.freshId.2.Calm ∧ w.freshId.2.store = w.store ∧ w.freshId.2.units = w.units := by
      unfold World.freshId
      split
      · exact ⟨calm.congr rfl rfl rfl, rfl, rfl⟩
      · exact ⟨calm.congr rfl rfl rfl, rfl, rfl⟩
    obtain ⟨after, store, units⟩ := drawn
    exact ⟨{ id := w.freshId.1 }, rfl, rfl, store, (congrArg (·[name]?) units).trans found,
      journaled, after⟩

theorem run_calm {α : Type} (p : Program α) (calm : w.Calm) (found : w.units[name]? = some unit)
    (journaled : unit.journaled = true) : ∃ chances : Nat → Chance,
      (∀ n, (chances n).event = none) ∧ ∀ exchanges, ∃ result w' p',
        p.run (World.reply interlude name) w = (result, w') ∧
        p.run Workplace.reply { store := w.store, unit, chances, exchanges } = (result, p') ∧
        w'.store = p'.store ∧ w'.units[name]? = some p'.unit := by
  induction p generalizing w unit with
  | done result =>
    exact ⟨fun _ => {}, fun _ => rfl, fun _ => ⟨result, w, _, rfl, rfl, rfl, found⟩⟩
  | ask request next ih =>
    obtain ⟨chance, event, mirrors⟩ := calm.reply found journaled interlude request
    obtain ⟨later, events, ends⟩ :=
      ih (World.reply interlude name request w).1 mirrors.calm mirrors.unit mirrors.journaled
    refine ⟨fun n => if n = 0 then chance else later (n - 1), fun n => ?_, fun exchanges => ?_⟩
    · dsimp only
      split
      · exact event
      · exact events _
    · obtain ⟨result, w', p', rehearsed, performed, same⟩ := ends
        (⟨request, (request.perform chance w.store unit).1⟩ :: exchanges)
      refine ⟨result, w', p', rehearsed, ?_, same⟩
      rw [mirrors.reply, mirrors.store] at performed
      exact performed

end SplitTest.Rehearsal.World
