import SplitTest.Proofs.Lifecycle.Creation
import SplitTest.Proofs.Lifecycle.Revision
import SplitTest.Proofs.Store.Names
import SplitTest.Proofs.System.Erasures
import SplitTest.Proofs.System.Rows

/-!
Where rows come from. Services do not rename, so every row that is stored, was read, or is to be put
back has the name that was inserted under its id. As long as no id is inserted twice the index of
names is exact, whatever is rolled back and when.
-/

namespace SplitTest

variable {ι : Type}

/-- Services come and go, and anything may break down; only nobody erases or restores a row without
a unit of work. -/
def Move.Served : Move ι → Prop
  | .begin _ job => ∃ settings service, job = .service settings service
  | .proceed _ _ => True
  | .undo _ => False

theorem Move.Served.own {move : Move ι} (served : move.Served) : move.Own := by
  cases move with
  | undo u => exact served
  | _ => trivial

def Entry.created? : Entry ι → Option Experiment
  | ⟨_, _, _, .replied x⟩ => x.created?
  | _ => none

namespace Trace

variable {trace trace' : Trace ι} {e e' : Experiment}

def createdIds (trace : Trace ι) : List Uuid :=
  trace.filterMap fun entry => entry.created?.map (·.id)

/-- The source of ids gave no experiment an id that another one had been inserted under. -/
def FreshIds (trace : Trace ι) : Prop := trace.createdIds.Nodup

instance : Decidable trace.FreshIds := inferInstanceAs (Decidable trace.createdIds.Nodup)

def Knows (trace : Trace ι) (e : Experiment) : Prop :=
  ∃ entry ∈ trace, ∃ row, entry.created? = some row ∧ row.id = e.id ∧ row.nameKey = e.nameKey

theorem Knows.mono (knows : trace.Knows e) (suffix : trace <:+ trace') : trace'.Knows e := by
  obtain ⟨entry, m, rest⟩ := knows
  exact ⟨entry, suffix.subset m, rest⟩

theorem Knows.revised (knows : trace.Knows e) (id : e'.id = e.id)
    (named : e'.nameKey = e.nameKey) : trace.Knows e' := by
  obtain ⟨entry, m, row, created, same, key⟩ := knows
  exact ⟨entry, m, row, created, same.trans id.symm, key.trans named.symm⟩

theorem mem_createdIds {entry : Entry ι} {row : Experiment} (m : entry ∈ trace)
    (created : entry.created? = some row) : row.id ∈ trace.createdIds := by
  apply List.mem_filterMap.mpr
  exact ⟨entry, m, by rw [created, Option.map_some]⟩

theorem eq_of_created {entry entry' : Entry ι} {row row' : Experiment}
    (once : trace.createdIds.Nodup) (m : entry ∈ trace) (m' : entry' ∈ trace)
    (created : entry.created? = some row) (created' : entry'.created? = some row')
    (same : row.id = row'.id) : entry = entry' := by
  induction trace with
  | nil => cases m
  | cons latest trace ih =>
    have fresh {row : Experiment} (new : latest.created? = some row) :
        row.id ∉ createdIds trace := by
      rw [createdIds, List.filterMap_cons, new, Option.map_some] at once
      exact (List.nodup_cons.mp once).1
    obtain here | earlier := List.mem_cons.mp m
    · obtain here' | earlier' := List.mem_cons.mp m'
      · exact here.trans here'.symm
      · rw [here] at created
        apply absurd (mem_createdIds earlier' created')
        rw [← same]
        exact fresh created
    · obtain here' | earlier' := List.mem_cons.mp m'
      · rw [here'] at created'
        apply absurd (mem_createdIds earlier created)
        rw [same]
        exact fresh created'
      · apply ih _ earlier earlier'
        exact once.sublist ((List.sublist_cons_self _ _).filterMap _)

theorem Knows.nameKey_eq (once : trace.createdIds.Nodup) (knows : trace.Knows e)
    (knows' : trace.Knows e') (same : e.id = e'.id) : e.nameKey = e'.nameKey := by
  obtain ⟨entry, m, row, created, id, named⟩ := knows
  obtain ⟨entry', m', row', created', id', named'⟩ := knows'
  have one := eq_of_created once m m' created created' (id.trans (same.trans id'.symm))
  rw [one, created'] at created
  cases created
  exact named.symm.trans named'

end Trace

namespace System

variable {w w' : System ι}

structure Rooted (w : System ι) : Prop where
  served : ∀ i task, (w.clients i).task = some task →
    ∃ settings service, task.job = .service settings service
  stored : ∀ id e, w.store.experimentById id = some e → w.trace.Knows e
  read : ∀ i task, (w.clients i).task = some task →
    ∀ id e, task.exchanges.Read id e → w.trace.Knows e
  kept : ∀ i row, Undo.restoreExperiment row ∈ w.pending i → w.trace.Knows row

theorem rooted_start : Rooted (start {} fun _ : ι => {}) where
  served i task busy := by cases busy
  stored id e stored := by cases Store.Built.empty.keyed.experiments stored; cases stored
  read i task busy := by cases busy
  kept i row m := by cases m

theorem Rooted.stored_shift (rooted : Rooted w) (orderly : Orderly w) (shift : Shift w w')
    (id : Uuid) (e : Experiment) (stored : w'.store.experimentById id = some e) :
    w'.trace.Knows e := by
  have suffix := shift.trace_suffix
  cases shift.arrival stored with
  | stayed id stored => exact (rooted.stored id e stored).mono suffix
  | created i task next busy rest trace =>
    rw [trace]
    exact ⟨_, List.mem_cons_self, e, rfl, rfl, rfl⟩
  | revised i task expected next busy rest =>
    obtain ⟨settings, service, job⟩ := rooted.served i task busy
    have meets := (orderly.faithful busy).meets
    rw [rest, job, Program.meets_ask] at meets
    obtain ⟨id', e', -, read, revises⟩ := meets.1
    have knows := (rooted.read i task busy id' e' read).mono suffix
    exact knows.revised revises.id revises.nameKey
  | restored i kept => exact (rooted.kept i e kept).mono suffix

theorem Rooted.kept_shift (rooted : Rooted w) (shift : Shift w w') (i : ι) (row : Experiment)
    (m : Undo.restoreExperiment row ∈ w'.pending i) : w'.trace.Knows row := by
  have suffix := shift.trace_suffix
  obtain kept | ⟨id, stored⟩ := shift.mem_restores m
  · exact (rooted.kept i row kept).mono suffix
  · exact (rooted.stored id row stored).mono suffix

theorem Shift.edited (shift : Shift w w') : Store.Edited w.store w'.store := by
  cases shift with
  | dropped store left trace =>
    rw [store]
    exact .kept rfl rfl
  | called i task c next reply busy rest performed kept others trace =>
    have edited := Store.edited_call c w.store
    rw [performed] at edited
    exact edited
  | undone i task next undo busy rest store left others trace =>
    rw [store]
    exact Store.edited_undo undo w.store

structure Named (w : System ι) : Prop where
  orderly : Orderly w
  journaled : w.Journaled
  owned : Owned w
  built : w.store.Built
  rooted : Rooted w
  indexed : w.store.Indexed

theorem named_start : Named (start {} fun _ : ι => {}) where
  orderly := orderly_start _ _
  journaled := journaled_start _
  owned := owned_start _
  built := .empty
  rooted := rooted_start
  indexed := Store.indexed_empty

variable [DecidableEq ι] {move : Move ι}

theorem Rooted.step (rooted : Rooted w) (orderly : Orderly w) (served : move.Served)
    (shift : Shift w (w.step move)) : Rooted (w.step move) where
  served := by
    apply job_step (fun job => ∃ settings service, job = .service settings service) rooted.served
    rintro i job rfl
    exact served
  stored := rooted.stored_shift orderly shift
  read i task busy id e read := by
    obtain ⟨i, task, busy, read⟩ | stored := read_step busy read
    · exact (rooted.read i task busy id e read).mono shift.trace_suffix
    · exact (rooted.stored id e stored).mono shift.trace_suffix
  kept := rooted.kept_shift shift

theorem Named.step (named : Named w) (served : move.Served)
    (once : (w.step move).trace.createdIds.Nodup) : Named (w.step move) := by
  have shift := shift_step named.journaled served.own
  have rooted := named.rooted.step named.orderly served shift
  have built : (w.step move).store.Built := built_step named.built
  refine ⟨named.orderly.step move, journaled_step named.journaled, named.owned.shift shift, built,
    rooted, ?_⟩
  apply named.indexed.step shift.edited
  intro id e e' stored stored'
  left
  apply (rooted.stored id e' stored').nameKey_eq once
  · exact (named.rooted.stored id e stored).mono shift.trace_suffix
  · exact (built.keyed.experiments stored').trans (named.indexed.keyed id e stored).symm

theorem createdIds_step (own : move.Own) (journaled : w.Journaled)
    (once : (w.step move).trace.createdIds.Nodup) : w.trace.createdIds.Nodup :=
  once.sublist ((shift_step journaled own).trace_suffix.sublist.filterMap _)

end System

end SplitTest
