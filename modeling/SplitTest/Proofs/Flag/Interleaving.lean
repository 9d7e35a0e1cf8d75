import SplitTest.Proofs.Flag.Paging
import SplitTest.Proofs.Store.Plain
import SplitTest.Proofs.System.Follows

/-!
Looking a flag up in all organizations while others go on. The pages are parts of different
listings, so that an experiment can move to a page that was turned already, and be missed, when a
newer one stops. This is the only way to miss it: as long as none that are newer stop, an experiment
that is running all the time lies before the scan.
-/

namespace SplitTest

namespace Flag

section Pages

variable {α : Type} {a : α} {before after : List α} {size k : Nat}

theorem mem_pageAt (reached : k * size ≤ before.length) (near : before.length < (k + 1) * size) :
    a ∈ pageAt (before ++ a :: after) size k := by
  have place : (pageAt (before ++ a :: after) size k)[before.length - k * size]? = some a := by
    rw [Nat.succ_mul] at near
    rw [pageAt, List.getElem?_take_of_lt (by omega), List.getElem?_drop,
      Nat.add_sub_cancel' reached, List.getElem?_append_right (Nat.le_refl _), Nat.sub_self]
    rfl
  exact List.mem_of_getElem? place

end Pages

variable {own : StoredExperiment} {flag : String} {size : UInt64} {h : History} {s s' : Store}

structure Ahead (own : StoredExperiment) (flag : String) (size : UInt64) (h : History)
    (s : Store) : Prop where
  shown : ∀ page ∈ h.pages, ∀ e ∈ page, e.status = .running
  place : (∀ page ∈ h.pages, Turned flag size page) → ∃ newer older,
    s.listed none (some .running) = newer ++ own :: older ∧
      h.pages.length * size.toNat ≤ newer.length
  full : ∀ page rest, h.pages = page :: rest → (∀ page ∈ rest, Turned flag size page) →
    page.find? (·.name = flag) = none →
      size.toNat ≤ page.length ∧ (rest.length + 1) * size.toNat < UInt64.size

theorem ahead_of_unread (unread : h.pages = []) (listed : own ∈ s.listed none (some .running)) :
    Ahead own flag size h s where
  shown := by simp [unread]
  place _ := by
    obtain ⟨newer, older, split⟩ := List.append_of_mem listed
    exact ⟨newer, older, split, by simp [unread]⟩
  full page rest read := by simp [unread] at read

/-- From one store to the next a running experiment stays as it is, and so do all that are newer. -/
structure Endures (own : StoredExperiment) (s s' : Store) : Prop where
  stays : s'.experiments[own.row.id]? = some own
  newer : ∀ (id : Uuid) a, s.experiments[id]? = some a → a.row.status = .running →
    Store.isNewer a own = true → s'.experiments[id]? = some a

def endures (own : StoredExperiment) (s s' : Store) : Bool :=
  s'.experiments[own.row.id]?.any (·.isLike own) && s.experiments.toList.all fun (id, a) =>
    a.row.status ≠ .running || ! Store.isNewer a own || s'.experiments[id]?.any (·.isLike a)

theorem endures_of_check (checked : endures own s s' = true) : Endures own s s' := by
  have same {id : Uuid} {a : StoredExperiment}
      (like : s'.experiments[id]?.any (·.isLike a) = true) : s'.experiments[id]? = some a := by
    obtain ⟨b, found, like⟩ := (Option.any_eq_true _ _).mp like
    rw [found, StoredExperiment.eq_of_isLike like]
  obtain ⟨stays, newer⟩ := (Bool.and_eq_true _ _).mp checked
  refine ⟨same stays, fun id a stored running first => same ?_⟩
  have kept := List.all_eq_true.mp newer (id, a)
    (Std.ExtTreeMap.mem_toList_iff_getElem?_eq_some.mpr stored)
  simpa [running, first] using kept

theorem mem_running {a : StoredExperiment} : a ∈ s.listed none (some .running) ↔
    (∃ id : Uuid, s.experiments[id]? = some a) ∧ a.row.status = .running := by
  simp [Store.mem_listed, Store.isListed, eq_comm]

namespace Ahead

variable (ahead : Ahead own flag size h s)
include ahead

theorem store (keyed : s.Keyed) (keyed' : s'.Keyed) (running : own.row.status = .running)
    (endures : Endures own s s') : Ahead own flag size h s' where
  shown := ahead.shown
  place turned := by
    obtain ⟨newer, older, split, passed⟩ := ahead.place turned
    have kept (a : StoredExperiment) (m : a ∈ s.listed none (some .running))
        (first : Store.isNewer a own = true) : a ∈ s'.listed none (some .running) := by
      obtain ⟨⟨id, stored⟩, status⟩ := mem_running.mp m
      exact mem_running.mpr ⟨⟨id, endures.newer id a stored status first⟩, status⟩
    have stays := mem_running.mpr ⟨⟨_, endures.stays⟩, running⟩
    obtain ⟨newer', older', split', further⟩ := Store.place_mono keyed keyed' split stays kept
    exact ⟨newer', older', split', Nat.le_trans passed further⟩
  full := ahead.full

theorem other {x : Exchange} (other : x.page? = none) : Ahead own flag size (x :: h) s := by
  have same : History.pages (x :: h) = h.pages := List.filterMap_cons_none other
  constructor
  case shown => rw [same]; exact ahead.shown
  case place => rw [same]; exact ahead.place
  case full => rw [same]; exact ahead.full

theorem read {x : Exchange} (named : own.row.name = flag)
    (rows : s.experiments.size < UInt64.size)
    (turned : ∀ page ∈ h.pages, Turned flag size page)
    (told : x.page? = some (pageAt (s.listing none (some .running)) size.toNat h.pages.length)) :
    Ahead own flag size (x :: h) s := by
  have pages : History.pages (x :: h) =
      pageAt (s.listing none (some .running)) size.toNat h.pages.length :: h.pages :=
    List.filterMap_cons_some told
  obtain ⟨newer, older, split, passed⟩ := ahead.place turned
  have listing : s.listing none (some .running) =
      newer.map (·.row) ++ own.row :: older.map (·.row) := by
    rw [Store.listing_eq_map, split, List.map_append, List.map_cons]
  have few : newer.length < UInt64.size := by
    have length : (s.listing none (some .running)).length ≤ s.experiments.size :=
      Store.length_listing_le
    rw [listing, List.length_append, List.length_cons, List.length_map] at length
    omega
  have beyond (without : (pageAt (s.listing none (some .running)) size.toNat
      h.pages.length).find? (·.name = flag) = none) :
      (h.pages.length + 1) * size.toNat ≤ newer.length := by
    by_contra near
    have there : own.row ∈ pageAt (s.listing none (some .running)) size.toNat h.pages.length := by
      rw [listing]
      apply mem_pageAt
      · rwa [List.length_map]
      · rw [List.length_map]
        exact Nat.lt_of_not_le near
    have unnamed := List.find?_eq_none.mp without own.row there
    exact unnamed (decide_eq_true named)
  constructor
  case shown =>
    rw [pages]
    refine List.forall_mem_cons.mpr ⟨fun e m => ?_, ahead.shown⟩
    obtain ⟨a, listed, rfl⟩ := List.mem_map.mp (List.mem_of_mem_drop (List.mem_of_mem_take m))
    exact (mem_running.mp listed).2
  case place =>
    rw [pages]
    intro turned
    exact ⟨newer, older, split, beyond (List.forall_mem_cons.mp turned).1.without⟩
  case full =>
    rw [pages]
    rintro _ _ ⟨⟩ - without
    have past := beyond without
    refine ⟨?_, Nat.lt_of_le_of_lt past few⟩
    rw [pageAt, List.length_take, List.length_drop, listing, List.length_append, List.length_cons,
      List.length_map, List.length_map]
    rw [Nat.succ_mul] at past
    omega

theorem reply {r : Request} (named : own.row.name = flag) (rows : s.experiments.size < UInt64.size)
    (lawful : Paging flag size h r) (chance : Chance) (u : UnitOfWork) :
    Ahead own flag size (⟨r, (r.perform chance s u).1⟩ :: h) s := by
  cases r with
  | call c =>
    cases c with
    | listExperiments organization status limit offset =>
      obtain ⟨rfl, rfl, rfl, reached, turned⟩ := lawful
      cases broken : chance.call with
      | some fault =>
        apply ahead.other
        simp only [Request.perform, broken]
        rfl
      | none =>
        apply ahead.read named rows turned
        simp only [Request.perform, broken, Call.perform, Store.listExperiments, reached]
        rfl
    | _ => exact lawful.elim
  | _ => exact ahead.other rfl

end Ahead

end Flag

namespace System

variable {ι : Type} [DecidableEq ι] {settings : Settings} {flag : String} {own : StoredExperiment}
  {ticket : Nat}

def looking (settings : Settings) (flag : String) : Job :=
  .other ((·.map .experiment) <$> Flag.lookup settings flag none)

def Looked (flag : String) (size : UInt64) (h : History)
    (result : Except Fault (Outcome Value)) : Prop :=
  ∃ found : Except Fault (Outcome Experiment), result = found.map (·.map .experiment) ∧
    Transaction.Closes "find_flag" History.Troubled (Flag.Missed flag size) (Flag.Seen flag size) h
      found

theorem looking_meets (paged : settings.scanLimit ≠ 0) (allowed : settings.allowUnscoped = true) :
    (looking settings flag).program.Meets (Flag.Paging flag settings.scanLimit)
      (Looked flag settings.scanLimit) [] := by
  rw [looking, Job.program, Program.meets_map]
  exact (Flag.lookup_meets paged allowed).mono (fun _ _ lawful => lawful)
    fun _ found closes => ⟨found, rfl, closes⟩

theorem Looked.found {size : UInt64} {h : History} {s : Store}
    {result : Except Fault (Outcome Value)} (looked : Looked flag size h result)
    (ahead : Flag.Ahead own flag size h s) :
    (∃ e, result = .ok (.ok (.experiment e)) ∧ e.name = flag ∧ e.status = .running) ∨
      h.Troubled := by
  obtain ⟨found, rfl, closes⟩ := looked
  rcases found with fault | e | e
  · exact .inr closes
  · obtain ⟨-, page, rest, read, turned, without, short | far⟩ | ⟨trouble, -⟩ := closes
    · exact absurd short (Nat.not_lt_of_le (ahead.full page rest read turned without).1)
    · exact absurd (ahead.full page rest read turned without).2 (Nat.not_lt_of_le far)
    · exact .inr trouble
  · obtain ⟨page, rest, read, -, seen⟩ := closes
    refine .inl ⟨e, rfl, by simpa using List.find?_some seen, ?_⟩
    exact ahead.shown page (read ▸ List.mem_cons_self) e (List.mem_of_find?_eq_some seen)

theorem ahead_step {w : System ι} {fit : History → Except Fault (Outcome Value) → Prop}
    {size : UInt64} {move : Move ι} (orderly : Orderly w) (built : w.store.Built)
    (running : own.row.status = .running) (named : own.row.name = flag)
    (follows : Follows (Flag.Paging flag size) fit ticket w)
    (ahead : Flag.Ahead own flag size (w.trace.history ticket) w.store)
    (rows : w.store.experiments.size < UInt64.size)
    (endures : Flag.Endures own w.store (w.step move).store) :
    Flag.Ahead own flag size ((w.step move).trace.history ticket) (w.step move).store := by
  have went : Flag.Ahead own flag size ((w.step move).trace.history ticket) w.store := by
    obtain same | ⟨chance, request, u, lawful, same⟩ := history_step follows orderly move
    · rwa [same]
    · rw [same]
      exact ahead.reply named rows lawful chance u
  exact went.store built.keyed (built_step built).keyed running endures

/-- As long as an experiment of the flag's name is running, and none that are newer stop, a look-up
in all organizations finds one, unless something breaks down. -/
theorem run_scan_finds (settings : Settings) (flag : String) (before after : List (Move ι)) (i : ι)
    (task : Task) (own : StoredExperiment) (paged : settings.scanLimit ≠ 0)
    (allowed : settings.allowUnscoped = true) (running : own.row.status = .running)
    (named : own.row.name = flag)
    (busy : ((({} : System ι).run before).clients i).task = some task)
    (job : task.job = looking settings flag) (unread : task.exchanges.pages = [])
    (stored : (({} : System ι).run before).store.experiments[own.row.id]? = some own)
    (endures : ∀ middle move, middle ++ [move] <+: after →
      Flag.Endures own (({} : System ι).run (before ++ middle)).store
        (({} : System ι).run (before ++ middle ++ [move])).store)
    (rows : ∀ middle, middle <+: after →
      (({} : System ι).run (before ++ middle)).store.experiments.size < UInt64.size) :
    let final := ({} : System ι).run (before ++ after)
    ∀ entry ∈ final.trace, entry.ticket = task.ticket → ∀ result, entry.deed = .ended result →
      (∃ e, result = .ok (.ok (.experiment e)) ∧ e.name = flag ∧ e.status = .running) ∨
        (final.trace.history task.ticket).Troubled := by
  intro final entry entered ticket result ended
  let scanning (w : System ι) : Prop := Orderly w ∧ w.store.Built ∧
    Follows (Flag.Paging flag settings.scanLimit) (Looked flag settings.scanLimit) task.ticket w ∧
    Flag.Ahead own flag settings.scanLimit (w.trace.history task.ticket) w.store
  -- By induction on the moves that were made since, for the hypotheses are about each of them.
  have scans (middle : List (Move ι)) (part : middle <+: after) :
      scanning (({} : System ι).run (before ++ middle)) := by
    induction middle using List.reverseRecOn with
    | nil =>
      have orderly : Orderly (({} : System ι).run before) := orderly_run {} (fun _ => {}) before
      have told := (orderly.faithful busy).kept
      rw [List.append_nil]
      refine ⟨orderly, built_run .empty, follows_of_busy orderly busy ?_, ?_⟩
      · exact job_meets_run (looking_meets paged allowed) before i task busy job
      · rw [told]
        exact Flag.ahead_of_unread unread (Flag.mem_running.mpr ⟨⟨_, stored⟩, running⟩)
    | append_singleton middle move ih =>
      have earlier : middle <+: after := (List.prefix_append middle [move]).trans part
      obtain ⟨orderly, built, follows, ahead⟩ := ih earlier
      have went := endures middle move part
      rw [← List.append_assoc]
      rw [run_append _ (before ++ middle)] at went ⊢
      exact ⟨orderly.step move, built_step built, follows.step orderly move,
        ahead_step orderly built running named follows ahead (rows middle earlier) went⟩
  obtain ⟨-, -, follows, ahead⟩ := scans after (List.prefix_refl _)
  exact (follows.fits entry entered ticket result ended).found ahead

def started (i : Fin 3) : List (Move (Fin 3)) :=
  launching i "shape" ⟨8⟩ ⟨1⟩ ++ launching i "colour" ⟨9⟩ ⟨2⟩ ++ launching i "size" ⟨8⟩ ⟨3⟩

def queue (i j : Fin 3) : List (Move (Fin 3)) :=
  started i ++ [.begin j (looking { scanLimit := 1 } "colour")]

def stopping (i j : Fin 3) (id : Uuid) : List (Move (Fin 3)) :=
  going j 2 ⟨0⟩ ++ asking i (.stop id) :: going i 7 ⟨0⟩ ++ going j 5 ⟨0⟩

theorem busy_begin {w : System ι} {i : ι} {j : Job} (idle : (w.clients i).task = none) :
    ((w.step (.begin i j)).clients i).task =
      some { ticket := w.tickets, job := j, rest := j.program } := by
  simp only [step, begin, idle, accept, setClient_self]

theorem run_scan_finds_second_page :
    ∃ entry ∈ (({} : System (Fin 3)).run (queue 0 1 ++ stopping 0 1 ⟨1⟩)).trace, entry.ticket = 6 ∧
      ∃ e, entry.deed = .ended (.ok (.ok (.experiment e))) ∧ e.name = "colour" ∧
        e.status = .running := by
  let after := stopping 0 1 ⟨1⟩
  let reached (n : Nat) := ({} : System (Fin 3)).run (queue 0 1 ++ after.take n)
  have facts : ((reached 0).store.experiments[(⟨2⟩ : Uuid)]?.isSome = true ∧
        ∀ own ∈ (reached 0).store.experiments[(⟨2⟩ : Uuid)]?,
          own.row.id = ⟨2⟩ ∧ own.row.status = .running ∧ own.row.name = "colour" ∧
            ∀ n < after.length, Flag.endures own (reached n).store (reached (n + 1)).store = true) ∧
      (∀ n ≤ after.length, (reached n).store.experiments.size < UInt64.size) ∧
      6 ∈ (reached after.length).trace.endings ∧
      ∀ x ∈ (reached after.length).trace.history 6,
        x.disturbed = false ∧ x.callFault?.isNone = true := by
    simp only [reached, queue, looking, Flag.lookup, Flag.find]
    rw [Flag.scan, Flag.scan, Flag.scan]
    delta System.run System.step System.proceed System.advance System.answer Request.perform
      Call.perform Store.listExperiments
    simp only [Store.listing_eq_insertionSort]
    decide +kernel
  obtain ⟨⟨there, flagged⟩, rows, ended, calm⟩ := facts
  obtain ⟨own, stored⟩ := Option.isSome_iff_exists.mp there
  obtain ⟨id, running, name, endures⟩ := flagged own stored
  have first : reached 0 = ({} : System (Fin 3)).run (queue 0 1) := by
    simp only [reached, List.take_zero, List.append_nil]
  rw [← id, first] at stored
  have idle : ((({} : System (Fin 3)).run (started 0)).clients 1).task = none := by
    rw [← Option.isNone_iff_eq_none]
    decide +kernel
  have tickets : (({} : System (Fin 3)).run (started 0)).tickets = 6 := by decide +kernel
  let job := looking { scanLimit := 1 } "colour"
  have busy : ((({} : System (Fin 3)).run (queue 0 1)).clients 1).task =
      some { ticket := 6, job, rest := job.program } := by
    rw [queue, run_append]
    generalize ({} : System (Fin 3)).run (started 0) = w at idle tickets ⊢
    rw [← tickets]
    exact busy_begin idle
  have taken {middle : List (Move (Fin 3))} (part : middle <+: after) :
      ({} : System (Fin 3)).run (queue 0 1 ++ middle) = reached middle.length :=
    congrArg (fun middle => ({} : System (Fin 3)).run (queue 0 1 ++ middle))
      (List.prefix_iff_eq_take.mp part)
  obtain ⟨entry, m, told⟩ := List.mem_filterMap.mp ended
  obtain ⟨i, ticket, job', x | undo | result⟩ := entry
  · cases told
  · cases told
  obtain rfl : ticket = 6 := Option.some.inj told
  rw [← taken (List.prefix_refl after)] at m calm
  have found := run_scan_finds { scanLimit := 1 } "colour" (queue 0 1) after 1 _ own (by decide) rfl
    running name busy rfl rfl stored ?_ ?_ _ m rfl result rfl
  · obtain ⟨e, rfl, shown⟩ | stormy | broken := found
    · exact ⟨_, m, rfl, e, rfl, shown⟩
    · exact absurd (fun x m => (calm x m).1) stormy
    · refine absurd (List.filterMap_eq_nil_iff.mpr fun x m => ?_) broken
      exact Option.isNone_iff_eq_none.mp (calm x m).2
  · intro middle move part
    have earlier : middle <+: after := (List.prefix_append middle [move]).trans part
    have length := part.length_le
    rw [List.length_append, List.length_singleton] at length
    rw [List.append_assoc, taken earlier, taken part, List.length_append, List.length_singleton]
    exact Flag.endures_of_check (endures middle.length length)
  · intro middle part
    rw [taken part]
    exact rows middle.length part.length_le

def Entry.missing? : Entry (Fin 3) → Option (Fin 3 × String)
  | ⟨i, _, _, .ended (.ok (.error (.flagMissing flag)))⟩ => some (i, flag)
  | _ => none

/-- A newer experiment stops, and the flag moves to the page that was read already. It is running
all the time, nothing breaks down, and it is reported missing. -/
theorem newer_stop_hides_flag :
    let reached (n : Nat) := ({} : System (Fin 3)).run (queue 0 1 ++ (stopping 0 1 ⟨3⟩).take n)
    (∀ n ≤ (stopping 0 1 ⟨3⟩).length, ((reached n).store.experimentById ⟨2⟩).any
        (fun e => e.name = "colour" ∧ e.status = .running) = true) ∧
      (reached (stopping 0 1 ⟨3⟩).length).trace.filterMap Entry.missing? = [(1, "colour")] ∧
      ∀ x ∈ (reached (stopping 0 1 ⟨3⟩).length).trace.history 6,
        x.disturbed = false ∧ x.callFault?.isNone = true := by
  intro reached
  simp only [reached, queue, looking, Flag.lookup, Flag.find]
  rw [Flag.scan, Flag.scan, Flag.scan]
  delta System.run System.step System.proceed System.advance System.answer Request.perform
    Call.perform Store.listExperiments
  simp only [Store.listing_eq_insertionSort]
  decide +kernel

end System

end SplitTest
