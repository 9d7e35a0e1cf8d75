import SplitTest.Proofs.Store.Assignments
import SplitTest.Proofs.System.Pending

/-!
Rows that units of work are to erase. Each is stored, it is to be erased once, and nobody has
inserted it since.
-/

namespace SplitTest

inductive RowKey where
  | experiment (id : Uuid)
  | assignment (key : AssignmentKey)
deriving DecidableEq

def Store.Has (s : Store) : RowKey → Prop
  | .experiment id => (s.experimentById id).isSome
  | .assignment key => s.assignments[key]?.isSome

def Undo.erases? : Undo → Option RowKey
  | eraseExperiment id => some (.experiment id)
  | eraseAssignment experiment subject => some (.assignment (experiment, subject))
  | _ => none

def Exchange.inserted? : Exchange → Option RowKey
  | ⟨.call (.createExperiment row), .ok .inserted⟩ => some (.experiment row.id)
  | ⟨.call (.createAssignment row), .ok .inserted⟩ => some (.assignment row.key)
  | _ => none

variable {ι : Type}

def Entry.inserted? : Entry ι → Option RowKey
  | ⟨_, _, _, .replied x⟩ => x.inserted?
  | _ => none

def Trace.inserter? (trace : Trace ι) (key : RowKey) : Option ι :=
  (trace.find? (·.inserted? = some key)).map (·.client)

theorem Exchange.inserted?_eq_none {x : Exchange} (silent : x.wrote = false) :
    x.inserted? = none := by
  unfold inserted?
  split
  · cases silent
  · cases silent
  · rfl

theorem Call.erases_undo? (c : Call) (s : Store) (reply : c.Reply) :
    (c.undo? s reply).bind Undo.erases? = Exchange.inserted? ⟨.call c, .ok reply⟩ := by
  cases c with
  | createExperiment row => cases reply <;> rfl
  | createAssignment row => cases reply <;> rfl
  | updateExperiment row expected =>
    cases reply with
    | updated =>
      simp only [undo?]
      cases s.experimentById row.id <;> rfl
    | _ => rfl
  | _ => rfl

namespace Call.Effect

variable {s s' : Store} {c : Call} {reply : Except Fault c.Reply} {key : RowKey}

theorem has (effect : c.Effect s reply s') (held : s.Has key) : s'.Has key := by
  cases key with
  | experiment id =>
    have saves {row : Experiment} (saved : ∀ id, s'.experimentById id =
        if row.id = id then some row else s.experimentById id) : s'.Has (.experiment id) := by
      rw [Store.Has, saved]
      split
      · rfl
      · exact held
    cases effect with
    | silent => exact held
    | created fresh same saved => exact saves saved
    | updated found status same saved => exact saves saved
    | bound fresh same bound => rwa [Store.Has, same]
    | recorded assignments same => rwa [Store.Has, same]
  | assignment key =>
    obtain ⟨a, found⟩ := Option.isSome_iff_exists.mp held
    exact Option.isSome_of_eq_some (effect.assignments found)

theorem inserted (effect : c.Effect s reply s')
    (inserted : Exchange.inserted? ⟨.call c, reply⟩ = some key) : ¬ s.Has key ∧ s'.Has key := by
  cases effect with
  | silent silent told =>
    rw [Exchange.inserted?_eq_none silent] at inserted
    cases inserted
  | created fresh same saved =>
    cases inserted
    simp [Store.Has, fresh, saved]
  | bound fresh same bound =>
    cases inserted
    simp [Store.Has, fresh, bound]
  | _ => cases inserted

end Call.Effect

theorem Undo.perform_has {s : Store} {u : Undo} {key : RowKey} (other : u.erases? ≠ some key)
    (held : s.Has key) : (u.perform s).Has key := by
  cases u with
  | eraseExperiment id =>
    obtain same | ⟨same, erased⟩ := s.eraseExperiment_cases id
    · rwa [Undo.perform, same]
    · cases key with
      | experiment id' =>
        have apart : id ≠ id' := by
          intro same
          exact other (by rw [same]; rfl)
        rwa [Store.Has, Undo.perform, erased, if_neg apart]
      | assignment key => rwa [Store.Has, Undo.perform, same]
  | restoreExperiment row =>
    obtain same | ⟨same, saved⟩ := s.restoreExperiment_cases row
    · rwa [Undo.perform, same]
    · cases key with
      | experiment id =>
        rw [Store.Has, Undo.perform, saved]
        split
        · rfl
        · exact held
      | assignment key => rwa [Store.Has, Undo.perform, same]
  | eraseAssignment experiment subject =>
    cases key with
    | experiment id => exact held
    | assignment key =>
      have apart : (experiment, subject) ≠ key := by
        intro same
        exact other (by rw [← same]; rfl)
      rwa [Store.Has, Undo.perform, Store.eraseAssignment_getElem?, if_neg apart]
  | eraseObservation sequence =>
    cases key with
    | experiment id => exact held
    | assignment key => exact held

namespace Trace

variable {trace : Trace ι} {entry : Entry ι} {key : RowKey}

theorem inserter?_own (inserted : entry.inserted? = some key) :
    inserter? (entry :: trace) key = some entry.client := by
  simp [inserter?, inserted]

theorem inserter?_other (other : entry.inserted? ≠ some key) :
    inserter? (entry :: trace) key = trace.inserter? key := by
  simp [inserter?, other]

end Trace

namespace System

variable {w w' : System ι} {i j : ι} {key : RowKey}

def erasures (w : System ι) (i : ι) : List RowKey := (w.pending i).filterMap (·.erases?)

theorem erasures_kept {undo : Option Undo} (kept : w'.pending i = undo.toList ++ w.pending i) :
    w'.erasures i = (undo.bind Undo.erases?).toList ++ w.erasures i := by
  rw [erasures, kept, List.filterMap_append]
  cases undo with
  | none => rfl
  | some undo =>
    rw [Option.toList_some, List.filterMap_cons, Option.bind_some]
    cases undo.erases? <;> rfl

theorem erasures_left {undo : Undo} (left : w.pending i = undo :: w'.pending i) :
    w.erasures i = undo.erases?.toList ++ w'.erasures i := by
  have kept : w.pending i = (some undo).toList ++ w'.pending i := left
  exact erasures_kept kept

theorem erasures_same (same : w'.pending i = w.pending i) : w'.erasures i = w.erasures i :=
  congrArg (List.filterMap _) same

theorem Shift.mem_erasures (shift : Shift w w') (m : key ∈ w'.erasures i) :
    key ∈ w.erasures i ∨ ¬ w.store.Has key ∧ w'.store.Has key ∧
      w'.trace.inserter? key = some i := by
  cases shift with
  | dropped store left trace =>
    have sub : (w'.erasures i).Sublist (w.erasures i) := (left i).sublist.filterMap _
    exact .inl (sub.subset m)
  | called j task c next reply busy rest performed kept others trace =>
    by_cases mine : i = j
    · subst mine
      rw [erasures_kept kept, List.mem_append, Option.mem_toList, c.erases_undo?] at m
      obtain new | old := m
      · obtain ⟨fresh, held⟩ := (Call.effect_of_perform performed).inserted new
        refine .inr ⟨fresh, held, ?_⟩
        rw [trace]
        exact Trace.inserter?_own new
      · exact .inl old
    · rw [erasures_same (others i mine)] at m
      exact .inl m
  | undone j task next undo busy rest store left others trace =>
    by_cases mine : i = j
    · subst mine
      rw [erasures_left left]
      exact .inl (List.mem_append_right _ m)
    · rw [erasures_same (others i mine)] at m
      exact .inl m

theorem Shift.has (shift : Shift w w') (held : w.store.Has key)
    (spared : ∀ i task next undo, (w.clients i).task = some task → task.rest = .ask .rollback next →
      w.pending i = undo :: w'.pending i → (∀ j, j ≠ i → w'.pending j = w.pending j) →
      undo.erases? ≠ some key) : w'.store.Has key := by
  cases shift with
  | dropped store left trace =>
    rw [store]
    exact held
  | called i task c next reply busy rest performed kept others trace =>
    exact (Call.effect_of_perform performed).has held
  | undone i task next undo busy rest store left others trace =>
    rw [store]
    exact Undo.perform_has (spared i task next undo busy rest left others) held

theorem Shift.inserter (shift : Shift w w') (held : w.store.Has key) :
    w'.trace.inserter? key = w.trace.inserter? key := by
  cases shift with
  | dropped store left trace =>
    obtain same | ⟨entry, same, quiet⟩ := trace
    · rw [same]
    · have silent : entry.inserted? = none := by
        obtain ⟨_, _, _, x | _ | _⟩ := entry
        · exact Exchange.inserted?_eq_none (quiet x rfl).1
        · rfl
        · rfl
      rw [same, Trace.inserter?_other (by rw [silent]; nofun)]
  | called i task c next reply busy rest performed kept others trace =>
    rw [trace]
    apply Trace.inserter?_other
    intro inserted
    exact ((Call.effect_of_perform performed).inserted inserted).1 held
  | undone i task next undo busy rest store left others trace =>
    rw [trace]
    exact Trace.inserter?_other nofun

theorem Shift.inserted {ticket : Nat} {job : Job} {x : Exchange} (shift : Shift w w')
    (trace : w'.trace = ⟨i, ticket, job, .replied x⟩ :: w.trace)
    (inserted : x.inserted? = some key) : ¬ w.store.Has key ∧ w'.store.Has key := by
  obtain ⟨silent, -⟩ | ⟨c, reply, rfl, performed⟩ := shift.replied trace
  · rw [Exchange.inserted?_eq_none silent] at inserted
    cases inserted
  · exact (Call.effect_of_perform performed).inserted inserted

structure Owned (w : System ι) : Prop where
  held : ∀ i key, key ∈ w.erasures i → w.store.Has key
  once : ∀ i, (w.erasures i).Nodup
  latest : ∀ i key, key ∈ w.erasures i → w.trace.inserter? key = some i

theorem owned_start (store : Store) : Owned (start store fun _ : ι => {}) :=
  ⟨nofun, fun _ => .nil, nofun⟩

theorem Owned.once_shift (owned : Owned w) (shift : Shift w w') (i : ι) :
    (w'.erasures i).Nodup := by
  have once := owned.once i
  cases shift with
  | dropped store left trace => exact once.sublist ((left i).sublist.filterMap _)
  | called j task c next reply busy rest performed kept others trace =>
    by_cases mine : i = j
    · subst mine
      rw [erasures_kept kept, c.erases_undo?]
      cases new : Exchange.inserted? ⟨.call c, .ok reply⟩ with
      | none => exact once
      | some key =>
        refine List.nodup_cons.mpr ⟨?_, once⟩
        intro old
        exact ((Call.effect_of_perform performed).inserted new).1 (owned.held i key old)
    · rw [erasures_same (others i mine)]
      exact once
  | undone j task next undo busy rest store left others trace =>
    by_cases mine : i = j
    · subst mine
      rw [erasures_left left] at once
      exact once.sublist (List.sublist_append_right _ _)
    · rw [erasures_same (others i mine)]
      exact once

theorem Owned.apart (owned : Owned w) {undo : Undo} (left : w.pending j = undo :: w'.pending j)
    (others : ∀ i, i ≠ j → w'.pending i = w.pending i) (m : key ∈ w'.erasures i) :
    undo.erases? ≠ some key := by
  intro erases
  have own := erasures_left left
  rw [erases] at own
  have head : key ∈ w.erasures j := by
    rw [own]
    exact List.mem_cons_self
  by_cases mine : i = j
  · subst mine
    have once := owned.once i
    rw [own] at once
    exact (List.nodup_cons.mp once).1 m
  · rw [erasures_same (others i mine)] at m
    have latest := owned.latest i key m
    rw [owned.latest j key head] at latest
    exact mine (Option.some.inj latest).symm

theorem Owned.shift (owned : Owned w) (shift : Shift w w') : Owned w' where
  held i key m := by
    obtain old | ⟨-, held, -⟩ := shift.mem_erasures m
    · apply shift.has (owned.held i key old)
      intro j task next undo busy rest left others
      exact owned.apart left others m
    · exact held
  once := owned.once_shift shift
  latest i key m := by
    obtain old | ⟨-, -, latest⟩ := shift.mem_erasures m
    · rw [shift.inserter (owned.held i key old)]
      exact owned.latest i key old
    · exact latest

theorem Shift.keeps_row (shift : Shift w w') (held : w.store.Has key)
    (calm : ∀ i task next, (w.clients i).task = some task → task.rest = .ask .rollback next →
      key ∉ w.erasures i) :
    w'.store.Has key ∧ ∀ i, key ∈ w'.erasures i → key ∈ w.erasures i := by
  constructor
  · apply shift.has held
    intro i task next undo busy rest left others erases
    apply calm i task next busy rest
    rw [erasures_left left, erases]
    exact List.mem_cons_self
  · intro i m
    obtain old | ⟨fresh, -, -⟩ := shift.mem_erasures m
    · exact old
    · exact absurd held fresh

variable [DecidableEq ι]

theorem run_own (store : Store) {moves : List (Move ι)} (own : ∀ move ∈ moves, move.Own) :
    ((start store fun _ => {}).run moves).Journaled ∧ Owned ((start store fun _ => {}).run moves) := by
  apply run_keeps (fun w => w.Journaled ∧ Owned w)
  · intro w move m kept
    exact ⟨journaled_step kept.1, kept.2.shift (shift_step kept.1 (own move m))⟩
  · exact ⟨journaled_start store, owned_start store⟩

end System

end SplitTest
