import SplitTest.Proofs.Rehearsal.Workplace
import SplitTest.Proofs.Store.Reversal
import SplitTest.Proofs.Store.Uniqueness
import SplitTest.Rehearsal.Run

namespace SplitTest

def Request.Admitted (s : Store) : Request → Prop
  | .call c => c.Admitted s
  | .rollback => False
  | _ => True

theorem Request.Admitted.ne_rollback {s : Store} {r : Request} (admitted : r.Admitted s) :
    r ≠ .rollback := by
  intro same
  rw [same] at admitted
  exact admitted

namespace Store

variable {s : Store} {n : Nat}

theorem numbered_empty (room : n + 1 < UInt64.size) : ({} : Store).Numbered n where
  below := nofun
  room := by
    rw [Nat.add_comm] at room
    exact room

theorem Numbered.after {calls : List Call} (numbers : s.Numbered (calls.length + n)) :
    (s.after calls).Numbered n := by
  induction calls generalizing s with
  | nil =>
    rw [List.length_nil, Nat.zero_add] at numbers
    exact numbers
  | cons c calls ih =>
    rw [List.length_cons, Nat.succ_add] at numbers
    exact ih (numbers.call c)

end Store

namespace Workplace

variable {numbered : Prop} {w : Workplace} {r : Request} {requests : List Request} {n : Nat}

def after (w : Workplace) (requests : List Request) : Workplace :=
  requests.foldl (fun w r => (reply r w).2) w

def Admits (w : Workplace) : List Request → Prop
  | [] => True
  | r :: requests => r.Admitted w.store ∧ (reply r w).2.Admits requests

structure Ready (numbered : Prop) (n : Nat) (w : Workplace) : Prop where
  indexed : w.store.Indexed
  journaled : w.unit.journaled = true
  numbers : numbered → w.store.Numbered n

theorem after_append (w : Workplace) (first second : List Request) :
    w.after (first ++ second) = (w.after first).after second := List.foldl_append

theorem admits_append {first second : List Request} :
    w.Admits (first ++ second) ↔ w.Admits first ∧ (w.after first).Admits second := by
  induction first generalizing w with
  | nil => exact ⟨fun admits => ⟨trivial, admits⟩, And.right⟩
  | cons r first ih =>
    rw [List.cons_append, Admits, ih, Admits, and_assoc]
    rfl

theorem Ready.reply (ready : Ready numbered (n + 1) w) (admitted : r.Admitted w.store) :
    Ready numbered n (reply r w).2 := by
  have kept (known : numbered) : w.store.Numbered n := (ready.numbers known).skip rfl rfl
  obtain ⟨store, unit⟩ | ⟨-, store, unit⟩ | ⟨c, rfl, store, unit⟩ :=
    reply_cases w admitted.ne_rollback
  · constructor
    case indexed => exact store ▸ ready.indexed
    case journaled => exact unit ▸ ready.journaled
    case numbers => exact store ▸ kept
  · constructor
    case indexed => exact store ▸ ready.indexed
    case journaled => exact unit ▸ ready.journaled
    case numbers => exact store ▸ kept
  · constructor
    case indexed => exact store ▸ ready.indexed.call admitted
    case journaled =>
      rw [unit, UnitOfWork.remember_journaled]
      exact ready.journaled
    case numbers =>
      rw [store]
      intro known
      exact (ready.numbers known).call c

theorem Ready.after (ready : Ready numbered (requests.length + n) w) (admits : w.Admits requests) :
    Ready numbered n (w.after requests) := by
  induction requests generalizing w with
  | nil =>
    rw [List.length_nil, Nat.zero_add] at ready
    exact ready
  | cons r requests ih =>
    rw [List.length_cons, Nat.succ_add] at ready
    exact ih (ready.reply admits.1) admits.2

theorem Ready.rewind_reply (ready : Ready numbered n w) (admitted : r.Admitted w.store)
    (uncommitted : r ≠ .commit) : ∃ undos, (Workplace.reply r w).2.unit.pending =
      undos ++ w.unit.pending ∧
        Store.Restored numbered w.store ((Workplace.reply r w).2.store.rewind undos) := by
  obtain ⟨store, unit⟩ | ⟨commit, -, -⟩ | ⟨c, rfl, store, unit⟩ :=
    reply_cases w admitted.ne_rollback
  · refine ⟨[], ?_, ?_⟩
    · rw [unit]
      rfl
    · rw [store]
      exact .refl w.store
  · exact absurd commit uncommitted
  · refine ⟨((c.perform w.store).1.toOption.bind (c.undo? w.store)).toList, ?_, ?_⟩
    · rw [unit]
      exact UnitOfWork.remember_pending ready.journaled
    · rw [store]
      exact ready.indexed.rewind_call admitted ready.numbers

theorem Ready.rewind_after (ready : Ready numbered requests.length w) (admits : w.Admits requests)
    (uncommitted : Request.commit ∉ requests) : ∃ undos, (w.after requests).unit.pending =
      undos ++ w.unit.pending ∧
        Store.Restored numbered w.store ((w.after requests).store.rewind undos) := by
  induction requests generalizing w with
  | nil => exact ⟨[], rfl, .refl w.store⟩
  | cons r requests ih =>
    rw [List.mem_cons, not_or] at uncommitted
    obtain ⟨first, later⟩ := uncommitted
    obtain ⟨undos, kept, restored⟩ := ready.rewind_reply admits.1 (Ne.symm first)
    obtain ⟨undos', kept', restored'⟩ := ih (ready.reply admits.1) admits.2 later
    -- What later requests have kept comes first, and is taken back first.
    refine ⟨undos' ++ undos, ?_, ?_⟩
    · rw [List.append_assoc, ← kept]
      exact kept'
    · rw [Store.rewind_append]
      exact restored.trans (restored'.rewind undos)

theorem clear_after (clear : w.unit.pending = [])
    (settled : requests = [] ∨ ∃ before, requests = before ++ [.commit]) :
    (w.after requests).unit.pending = [] := by
  obtain rfl | ⟨before, rfl⟩ := settled
  · exact clear
  · rw [after_append]
    rfl

end Workplace

namespace Rehearsal.World

variable {w : World}

def Whole (w : World) : Prop := ∀ u m, undoMethod? u = some m → ∀ n, w.failing m n = none

theorem Whole.attempt (whole : w.Whole) (u : Undo) : (w.attempt u).1 = none ∧
    (w.attempt u).2.Whole ∧ (w.attempt u).2.store = u.perform w.store := by
  cases named : undoMethod? u with
  | none =>
    have done : w.attempt u = (none, { w with store := u.perform w.store }) := by
      simp only [World.attempt, named, strike?]
    rw [done]
    exact ⟨rfl, whole, rfl⟩
  | some m =>
    have done : w.attempt u = (none, { (w.strike m).2 with store := u.perform w.store }) := by
      simp only [World.attempt, named, strike?, World.strike, whole u m named]
    rw [done]
    exact ⟨rfl, fun u m named n => whole u m named _, rfl⟩

theorem Whole.unwind (whole : w.Whole) (pending : List Undo) :
    (UnitOfWork.unwind World.attempt pending w).2.store = w.store.rewind pending := by
  induction pending generalizing w with
  | nil => rfl
  | cons u pending ih =>
    obtain ⟨unbroken, still, store⟩ := whole.attempt u
    rcases done : w.attempt u with ⟨fault, w'⟩
    rw [done] at unbroken still store
    cases unbroken
    dsimp only at store
    rw [UnitOfWork.unwind, done]
    dsimp only
    rw [ih still, store]
    rfl

variable {name : String} {unit : UnitOfWork}

theorem Whole.rollback_store (whole : w.Whole) (found : w.units[name]? = some unit)
    (journaled : unit.journaled = true) :
    (w.rollback name).2.store = w.store.rewind unit.pending := by
  simp only [rollback, found, journaled, if_true]
  exact whole.unwind unit.pending

theorem Whole.close_store (whole : w.Whole) (found : w.units[name]? = some unit)
    (journaled : unit.journaled = true) :
    (w.close name).2.store = w.store.rewind unit.pending := by
  have waits : (w.units[name]?.map (·.pending.isEmpty)).getD true = unit.pending.isEmpty := by
    rw [found, Option.map_some, Option.getD_some]
  have rolled := whole.rollback_store found journaled
  cases left : unit.pending with
  | nil =>
    simp only [close, waits, left, List.isEmpty_nil, if_true]
    rfl
  | cons u pending =>
    rw [left] at rolled
    simp only [close, waits, left, List.isEmpty_cons, Bool.false_eq_true, if_false]
    exact rolled

end Rehearsal.World

namespace Workplace

/-- A rollback is the inverse of what was written since the last commit, or since the beginning.
So is the end of a unit of work. -/
theorem rollback_restores (w : Workplace) (earlier later : List Request)
    (indexed : w.store.Indexed) (journaled : w.unit.journaled = true) (clear : w.unit.pending = [])
    (admits : w.Admits (earlier ++ later))
    (settled : earlier = [] ∨ ∃ before, earlier = before ++ [.commit])
    (uncommitted : Request.commit ∉ later) :
    let base := (w.after earlier).store
    let final := w.after (earlier ++ later)
    let numbered := w.store.Numbered (earlier ++ later).length
    (∀ chance : Chance, chance.undo = none → ∃ s,
      Request.rollback.perform chance final.store final.unit =
        (.ok (), s, { final.unit with pending := [], rollbacks := final.unit.rollbacks + 1 }) ∧
      Store.Restored numbered base s) ∧
    ∀ (name : String) (world : Rehearsal.World), world.Whole → world.store = final.store →
      world.units[name]? = some final.unit →
      Store.Restored numbered base (world.close name).2.store := by
  intro base final numbered
  obtain ⟨admits, admits'⟩ := admits_append.mp admits
  have ready : Ready numbered (earlier.length + later.length) w := by
    rw [← List.length_append]
    exact ⟨indexed, journaled, id⟩
  have ready' : Ready numbered later.length (w.after earlier) := ready.after admits
  obtain ⟨undos, kept, restored⟩ := ready'.rewind_after admits' uncommitted
  rw [clear_after clear settled, List.append_nil] at kept
  have same : final = (w.after earlier).after later := after_append w earlier later
  rw [← same] at kept restored
  rw [← kept] at restored
  have still : final.unit.journaled = true := by
    rw [same]
    exact (ready'.after (n := 0) admits').journaled
  constructor
  · intro chance whole
    refine ⟨final.store.rewind final.unit.pending, ?_, restored⟩
    rw [Request.perform, Store.unwind_eq whole]
    rfl
  · intro name world whole store found
    rw [whole.close_store found still, store]
    exact restored

def seen (subject : Uuid) : Call :=
  .recordMetric { experiment := ⟨1⟩, subject, metric := "m", value := 1 }

theorem rollback_restores_renamed :
    let w : Workplace :=
      { store := ({} : Store).after [.createExperiment Store.colour, seen ⟨7⟩], unit := {},
        chances := fun _ => {} }
    let earlier : List Request := [.call (seen ⟨8⟩), .commit]
    let later : List Request :=
      [.call (.updateExperiment { Store.colour with name := "size" } .draft),
        .call (.createExperiment { Store.shape with name := "colour" }), .call (seen ⟨9⟩)]
    let base := (w.after earlier).store
    let final := w.after (earlier ++ later)
    final.unit.pending.length = 3 ∧ final.store.names.size = 2 ∧
      final.store.observations.length = 3 ∧ ∃ s,
        Request.rollback.perform {} final.store final.unit =
          (.ok (), s, { final.unit with pending := [], rollbacks := 1 }) ∧
        Store.Restored True base s := by
  intro w earlier later base final
  have indexed : w.store.Indexed := Store.indexed_empty.after ⟨trivial, trivial, trivial⟩
  have indexed' : base.Indexed := indexed.call (c := seen ⟨8⟩) trivial
  have renamed : (.updateExperiment { Store.colour with name := "size" } .draft : Call).Admitted
      base := by
    intro old stored
    right
    intro id e stored'
    exact (indexed'.ne_of_free (by decide +kernel) stored').symm
  have admits : w.Admits (earlier ++ later) :=
    ⟨trivial, trivial, renamed, trivial, trivial, trivial⟩
  have numbers : w.store.Numbered (earlier ++ later).length :=
    Store.Numbered.after (Store.numbered_empty (by decide))
  have restores := rollback_restores w earlier later indexed rfl rfl admits
    (.inr ⟨[.call (seen ⟨8⟩)], rfl⟩) (by simp [later])
  obtain ⟨s, performed, restored⟩ := restores.1 {} rfl
  refine ⟨by decide +kernel, by decide +kernel, by decide +kernel, s, performed, ?_⟩
  exact ⟨restored.experiments, restored.names, restored.assignments,
    fun _ => restored.observations numbers⟩

end Workplace

end SplitTest
