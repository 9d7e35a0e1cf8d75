import SplitTest.Proofs.Lifecycle.Chronicle

/-!
How long an update lasts. A whole row is written back, and only the status it was read in is
compared; so a later update or start takes a field back to what it was if it read the row before
the field was written. One that read it afterwards, and any stop, leaves the field alone.
-/

namespace SplitTest

variable {ι : Type}

inductive Field where
  | description
  | variants
  | targetingRules
  | traffic

namespace Field

def Value : Field → Type
  | description => String
  | variants => Variants
  | targetingRules => Json
  | traffic => Int32

def of : (f : Field) → Experiment → Option f.Value
  | description, e => e.description
  | variants, e => some e.variants
  | targetingRules, e => e.targetingRules
  | traffic, e => some e.traffic

def supplied : (f : Field) → Changes → Option f.Value
  | description, changes => changes.description
  | variants, changes => changes.variants
  | targetingRules, changes => changes.targetingRules
  | traffic, changes => changes.traffic

variable {f : Field}

theorem of_update (changes : Changes) (e : Experiment) (now : Timestamp) :
    f.of { changes.apply e with updatedAt := now } = (f.supplied changes).or (f.of e) := by
  cases f with
  | description => rfl
  | targetingRules => rfl
  | variants =>
    change some (changes.variants.getD e.variants) = changes.variants.or (some e.variants)
    cases changes.variants <;> rfl
  | traffic =>
    change some (changes.traffic.getD e.traffic) = changes.traffic.or (some e.traffic)
    cases changes.traffic <;> rfl

@[simp] theorem of_stamped (e : Experiment) (status : Status) (startedAt endedAt : Option Timestamp)
    (updatedAt : Timestamp) :
    f.of { e with status, startedAt, endedAt, updatedAt } = f.of e := by
  cases f <;> rfl

end Field

/-- A service that has had the exchanges `h` since a field was written may bring another value:
an update to which the field is supplied, or one that read the row before. -/
def Service.Overrides (f : Field) (id : Uuid) (h : History) : Service → Prop
  | update _ changes => (f.supplied changes).isSome ∨ ∀ e, ¬ h.Read id e
  | start _ => ∀ e, ¬ h.Read id e
  | _ => False

def Trace.Undisturbed (f : Field) (id : Uuid) : Trace ι → Prop
  | [] => True
  | entry :: earlier =>
    Undisturbed f id earlier ∧ ∀ settings service row expected,
      entry.job = .service settings service → row.id = id →
      entry.deed = .replied ⟨.call (.updateExperiment row expected), .ok .updated⟩ →
      ¬ service.Overrides f id (Trace.history earlier entry.ticket)

def Exchange.readId? : Exchange → Option Uuid
  | ⟨.call (.experimentById id), .ok (some _)⟩ => some id
  | _ => none

theorem History.exists_read_iff {h : History} {id : Uuid} :
    (∃ e, h.Read id e) ↔ ∃ x ∈ h, x.readId? = some id := by
  constructor
  · rintro ⟨e, read⟩
    exact ⟨_, read, rfl⟩
  · rintro ⟨x, m, found⟩
    unfold Exchange.readId? at found
    split at found
    case h_1 id' e =>
      cases found
      exact ⟨e, m⟩
    case h_2 => cases found

instance {f : Field} {id : Uuid} {h : History} (service : Service) :
    Decidable (service.Overrides f id h) :=
  have unread : Decidable (∀ e, ¬ h.Read id e) :=
    decidable_of_iff (¬ ∃ x ∈ h, x.readId? = some id) (by
      rw [← History.exists_read_iff, not_exists])
  match service with
  | .update _ changes => inferInstanceAs (Decidable ((f.supplied changes).isSome ∨ _))
  | .start _ => unread
  | .create .. | .stop _ | .get _ | .list .. | .recordMetric .. | .results ..
  | .assignmentCounts _ | .assign .. | .flagVariant .. | .flagEnabled .. =>
    inferInstanceAs (Decidable False)

def Entry.rewriter? (id : Uuid) : Entry ι → Option Service
  | ⟨_, _, .service _ service, .replied ⟨.call (.updateExperiment row _), .ok .updated⟩⟩ =>
    if row.id = id then some service else none
  | _ => none

theorem Entry.rewriter?_eq_some_iff {entry : Entry ι} {id : Uuid} {service : Service} :
    entry.rewriter? id = some service ↔ ∃ settings row expected,
      entry.job = .service settings service ∧ row.id = id ∧
        entry.deed = .replied ⟨.call (.updateExperiment row expected), .ok .updated⟩ := by
  constructor
  · intro found
    unfold rewriter? at found
    split at found
    case h_1 settings service' row expected =>
      obtain ⟨own, same⟩ := Option.ite_none_right_eq_some.mp found
      cases same
      exact ⟨settings, row, expected, rfl, own, rfl⟩
    case h_2 => cases found
  · obtain ⟨i, ticket, job, deed⟩ := entry
    rintro ⟨settings, row, expected, rfl, own, rfl⟩
    exact if_pos own

namespace Trace

variable {f : Field} {id : Uuid}

theorem undisturbed_cons {entry : Entry ι} {earlier : Trace ι} :
    Undisturbed f id (entry :: earlier) ↔ Undisturbed f id earlier ∧
      ∀ service ∈ entry.rewriter? id,
        ¬ service.Overrides f id (Trace.history earlier entry.ticket) := by
  refine and_congr_right fun _ => ?_
  simp only [Option.mem_def, Entry.rewriter?_eq_some_iff]
  constructor
  · rintro spared service ⟨settings, row, expected, job, own, wrote⟩
    exact spared settings service row expected job own wrote
  · intro spared settings service row expected job own wrote
    exact spared service ⟨settings, row, expected, job, own, wrote⟩

instance : (trace : Trace ι) → Decidable (trace.Undisturbed f id)
  | [] => isTrue trivial
  | _ :: earlier =>
    have : Decidable (Undisturbed f id earlier) := instDecidableUndisturbed earlier
    decidable_of_iff' _ undisturbed_cons

end Trace

theorem History.Lawful.read_unique {settings : Settings} {service : Service} {h : History}
    {id id' : Uuid} {e e' : Experiment} (lawful : h.Lawful (service.law settings))
    (target : service.target? ≠ none) (read : h.Read id e) (read' : h.Read id' e') :
    id = id' ∧ e = e' := by
  induction h with
  | nil => cases read
  | cons x h ih =>
    have alone (first : x.request = .call (.experimentById id) ∨
        x.request = .call (.experimentById id')) : h = [] := by
      have lawful := lawful.1
      obtain same | same := first
      all_goals
        rw [same] at lawful
        exact lawful.resolve_left target
    obtain new | old := List.mem_cons.mp read
    · obtain rfl := alone (.inl (by rw [← new]))
      rw [History.Read, ← new, List.mem_singleton] at read'
      cases read'
      exact ⟨rfl, rfl⟩
    · obtain new' | old' := List.mem_cons.mp read'
      · obtain rfl := alone (.inr (by rw [← new']))
        cases old
      · exact ih lawful.2 old old'

theorem Service.Revises.of_eq {f : Field} {service : Service} {id : Uuid} {h : History}
    {e old row : Experiment} {expected : Status} (revises : service.Revises e row expected)
    (evolves : e.Evolves old) (status : old.status = expected)
    (spared : ¬ service.Overrides f id h)
    (fresh : ∀ e', h.Read id e' → f.of e = f.of old) : f.of row = f.of old := by
  cases service with
  | update id' changes =>
    obtain ⟨-, -, -, now, rfl⟩ := revises
    obtain ⟨omitted, late⟩ := not_or.mp spared
    obtain ⟨e', read⟩ := not_forall_not.mp late
    rw [← fresh e' read]
    rw [Field.of_update, Option.not_isSome_iff_eq_none.mp omitted, Option.none_or]
  | start id' =>
    obtain ⟨-, -, t, now, rfl⟩ := revises
    obtain ⟨e', read⟩ := not_forall_not.mp spared
    exact (Field.of_stamped ..).trans (fresh e' read)
  | stop id' =>
    obtain ⟨running, rfl, t, now, rfl⟩ := revises
    obtain rfl := evolves.settled (by rw [running]; decide) (status.trans running.symm)
    exact Field.of_stamped ..
  | _ => exact revises.elim

namespace System

variable {w : System ι} {i : ι} {task : Task} {f : Field} {row : Experiment} {later : Trace ι}

structure Lasts (w : System ι) (f : Field) (row : Experiment) (later : Trace ι) : Prop where
  stored : ∃ now, w.store.experimentById row.id = some now ∧ f.of now = f.of row
  read : ∀ ticket e, (later.history ticket).Read row.id e → f.of e = f.of row

theorem Lasts.revision {s' : Store} {x : Exchange} (lasts : w.Lasts f row later)
    (faithful : task.Faithful i w.trace) (recent : ∀ entry ∈ later, entry ∈ w.trace)
    (revision : Revision w.store s' task x)
    (spared : ∀ settings service row' expected, task.job = .service settings service →
      row'.id = row.id → x = ⟨.call (.updateExperiment row' expected), .ok .updated⟩ →
      ¬ service.Overrides f row.id (later.history task.ticket)) :
    ∃ now, s'.experimentById row.id = some now ∧ f.of now = f.of row := by
  obtain ⟨now, stored, same⟩ := lasts.stored
  cases revision with
  | nothing silent unchanged => exact ⟨now, (unchanged _).trans stored, same⟩
  | @created settings service row' job creates fresh saved =>
    have other : row'.id ≠ row.id := by
      intro own
      rw [own, stored] at fresh
      cases fresh
    exact ⟨now, by rw [saved, if_neg other, stored], same⟩
  | @revised settings service e old row' expected job target read revises evolves found status
      saved =>
    by_cases own : row'.id = row.id
    · rw [own] at target read found
      cases found.symm.trans stored
      refine ⟨row', by rw [saved, if_pos own], ?_⟩
      rw [← same]
      refine revises.of_eq evolves status (spared _ _ _ _ job own rfl) fun e' read' => ?_
      -- The call reads once, so what it read since the write is what it goes by.
      have lawful := faithful.lawful
      have member : task.exchanges.Read row.id e' := by
        rw [← faithful.kept]
        obtain ⟨entry, m, ticket, told⟩ := Trace.mem_history.mp read'
        exact Trace.mem_history.mpr ⟨entry, recent entry m, ticket, told⟩
      rw [job] at lawful
      obtain ⟨-, rfl⟩ := lawful.read_unique (by rw [target]; nofun) read member
      rw [lasts.read _ _ read', same]
    · exact ⟨now, by rw [saved, if_neg own, stored], same⟩

variable [DecidableEq ι]

def Keeps (w : System ι) : Prop :=
  ∀ (later earlier : Trace ι) (entry : Entry ι) (row : Experiment) (expected : Status),
    w.trace = later ++ entry :: earlier →
    entry.deed = .replied ⟨.call (.updateExperiment row expected), .ok .updated⟩ →
    ∀ f : Field, Trace.Undisturbed f row.id later → w.Lasts f row later

theorem Keeps.answer {chance : Chance} {request : Request}
    {next : Except Fault request.Reply → Program (Outcome Value)} (keeps : Keeps w)
    (steady : Steady w) (busy : (w.clients i).task = some task)
    (rest : task.rest = .ask request next) : Keeps (w.answer i chance task request next) := by
  intro later earlier entry row expected split written f undisturbed
  rw [trace_answer] at split
  have revision := steady.revision chance busy rest
  cases later with
  | nil =>
    obtain ⟨rfl, -⟩ := List.cons.inj split
    have told := Deed.replied.inj written
    refine ⟨⟨row, (revision.written (by rw [told]; rfl)).1, rfl⟩, fun ticket e read => ?_⟩
    cases read
  | cons recent later =>
    obtain ⟨rfl, older⟩ := List.cons.inj split
    have lasts := keeps _ _ _ _ _ older written f undisturbed.1
    have within (entry' : Entry ι) (m : entry' ∈ later) : entry' ∈ w.trace := by
      rw [older]
      exact List.mem_append_left _ m
    constructor
    case stored =>
      refine lasts.revision (steady.orderly.faithful busy) within revision ?_
      intro settings service row' expected' job own told
      exact undisturbed.2 settings service row' expected' job own (congrArg _ told)
    case read =>
      intro ticket e read
      obtain ⟨entry', m, own, told⟩ := Trace.mem_history.mp read
      obtain ⟨now, stored, same⟩ := lasts.stored
      obtain rfl | m := List.mem_cons.mp m
      · cases stored.symm.trans (Request.perform_read (Deed.replied.inj told))
        exact same
      · exact lasts.read ticket e (Trace.mem_history.mpr ⟨entry', m, own, told⟩)

theorem Keeps.step {move : Move ι} (keeps : Keeps w) (steady : Steady w) (calm : move.Quiet) :
    Keeps (w.step move) := by
  have turn := w.turn_step move
  generalize w.step move = w' at turn ⊢
  cases turn with
  | skipped => exact keeps
  | accepted =>
    intro later earlier entry row expected split written f undisturbed
    have lasts := keeps later earlier entry row expected split written f undisturbed
    exact ⟨lasts.stored, lasts.read⟩
  | meddled => exact calm.elim
  | tookBack busy rest left => exact (steady.quiet.not_left steady.orderly busy rest left).elim
  | answered busy rest => exact keeps.answer steady busy rest
  | finished =>
    intro later earlier entry row expected split written f undisturbed
    cases later with
    | nil =>
      obtain ⟨rfl, -⟩ := List.cons.inj split
      cases written
    | cons recent later =>
      obtain ⟨rfl, older⟩ := List.cons.inj split
      have lasts := keeps _ _ _ _ _ older written f undisturbed.1
      refine ⟨lasts.stored, fun ticket e read => lasts.read ticket e ?_⟩
      rwa [Trace.history_silent (by rintro _ ⟨⟩)] at read

/-- The fields that are given to an update are stored from its write on, until a write disturbs
them: one of an update to which the same field is given, or of an update or a start that read the
row before. -/
theorem run_update_lasts (store : Store) (units : ι → UnitOfWork) (moves : List (Move ι))
    (id : Uuid) (changes : Changes) (value : Value) (answer : Entry ι) (built : store.Built)
    (empty : ∀ i, (units i).pending = []) (calm : ∀ move ∈ moves, move.Quiet)
    (member : answer ∈ ((start store units).run moves).trace)
    (answered : answer.answer? = some (.update id changes, value)) :
    let final := (start store units).run moves
    ∃ later write earlier row expected, final.trace = later ++ write :: earlier ∧
      write.ticket = answer.ticket ∧ row.id = id ∧
      write.deed = .replied ⟨.call (.updateExperiment row expected), .ok .updated⟩ ∧
      ∀ (f : Field) (v : f.Value), f.supplied changes = some v → Trace.Undisturbed f id later →
        ∃ now, final.store.experimentById id = some now ∧ f.of now = some v := by
  intro final
  obtain ⟨steady, chronicle, keeps⟩ : Steady final ∧ Chronicle final ∧ Keeps final := by
    refine run_keeps (fun w => Steady w ∧ Chronicle w ∧ Keeps w) ?_ ?_
    · rintro w move m ⟨steady, chronicle, keeps⟩
      have quiet := calm move m
      exact ⟨steady.step quiet, chronicle.step steady quiet, keeps.step steady quiet⟩
    · refine ⟨steady_start built empty, chronicle_start, ?_⟩
      intro later earlier entry row expected split
      exact absurd split.symm (List.append_ne_nil_of_right_ne_nil _ (List.cons_ne_nil _ _))
  have shows := steady.orderly.shows_of_answer member answered
  obtain ⟨e, row, expected, -, read, revises, wrote⟩ := shows.revised id rfl
  obtain ⟨write, m, own, written⟩ := Trace.mem_history.mp wrote
  obtain ⟨later, earlier, split⟩ := List.append_of_mem m
  have known : row.id = id := revises.id.trans (chronicle.read read)
  refine ⟨later, write, earlier, row, expected, split, own, known, written, ?_⟩
  intro f v given undisturbed
  obtain ⟨now, stored, same⟩ :=
    (keeps later earlier write row expected split written f (known ▸ undisturbed)).stored
  rw [known] at stored
  refine ⟨now, stored, same.trans ?_⟩
  obtain ⟨-, -, -, t, rfl⟩ := revises
  rw [Field.of_update, given, Option.some_or]

def drafted : Store :=
  (({} : Store).createExperiment { id := ⟨1⟩, organization := ⟨2⟩, name := "colour" }).2

def interrupted (n : Nat) (first second : Service) : List (Move Bool) :=
  .begin true (.service {} first) :: List.replicate n (.proceed true {}) ++
    .begin false (.service {} second) :: List.replicate 7 (.proceed false {}) ++
      List.replicate 7 (.proceed true {})

def redirected : System Bool :=
  (start drafted fun _ => {}).run <|
    interrupted 3 (.update ⟨1⟩ { description := some "new" }) (.update ⟨1⟩ { traffic := some 50 })

theorem run_update_lasts_later :
    let changes : Changes := { description := some "new" }
    ∃ answer ∈ redirected.trace, ∃ value, answer.answer? = some (.update ⟨1⟩ changes, value) ∧
      ∃ later write earlier row expected, redirected.trace = later ++ write :: earlier ∧
        write.ticket = answer.ticket ∧ row.id = ⟨1⟩ ∧
        write.deed = .replied ⟨.call (.updateExperiment row expected), .ok .updated⟩ ∧
        (∃ entry ∈ later, (entry.rewriter? ⟨1⟩).isSome = true) ∧
        Trace.Undisturbed .description ⟨1⟩ later ∧
        ∃ now, redirected.store.experimentById ⟨1⟩ = some now ∧ now.description = some "new" := by
  intro changes
  have calm : ∀ move ∈ interrupted 3 (.update ⟨1⟩ changes) (.update ⟨1⟩ { traffic := some 50 }),
      move.Quiet := by
    simp [interrupted, Move.Quiet]
  obtain ⟨answer, member, first, value, answered⟩ :
      ∃ answer ∈ redirected.trace, answer.ticket = 0 ∧
        ∃ value, answer.answer? = some (.update ⟨1⟩ changes, value) :=
    ⟨_, List.mem_cons_self, rfl, _, rfl⟩
  have since : ∀ n < redirected.trace.length, ∀ write ∈ redirected.trace[n]?,
      ((write.exchange? 0).bind (·.saved?)).isSome = true →
        (∃ entry ∈ redirected.trace.take n, (entry.rewriter? ⟨1⟩).isSome = true) ∧
          Trace.Undisturbed .description ⟨1⟩ (redirected.trace.take n) := by
    decide +kernel
  obtain ⟨later, write, earlier, row, expected, split, own, known, written, lasts⟩ :
      ∃ later write earlier row expected, redirected.trace = later ++ write :: earlier ∧
        write.ticket = answer.ticket ∧ row.id = ⟨1⟩ ∧
        write.deed = .replied ⟨.call (.updateExperiment row expected), .ok .updated⟩ ∧
        ∀ (f : Field) (v : f.Value), f.supplied changes = some v → Trace.Undisturbed f ⟨1⟩ later →
          ∃ now, redirected.store.experimentById ⟨1⟩ = some now ∧ f.of now = some v :=
    run_update_lasts drafted (fun _ => {}) _ ⟨1⟩ changes value answer
      (.call (.createExperiment _) .empty) (fun _ => rfl) calm member answered
  have saves : ((write.exchange? 0).bind (·.saved?)).isSome = true := by
    obtain ⟨i, ticket, job, deed⟩ := write
    obtain rfl : ticket = 0 := own.trans first
    obtain rfl : deed = _ := written
    rfl
  have taken : redirected.trace.take later.length = later := by rw [split, List.take_left]
  obtain ⟨rewritten, undisturbed⟩ := since later.length (by simp [split]) write (by simp [split])
    saves
  rw [taken] at rewritten undisturbed
  exact ⟨answer, member, value, answered, later, write, earlier, row, expected, split, own, known,
    written, rewritten, undisturbed, lasts .description "new" rfl undisturbed⟩

def described (stale : Service) : System Bool :=
  (start drafted fun _ => {}).run <|
    interrupted 1 stale (.update ⟨1⟩ { description := some "new" })

def Forgotten (stale : Service) : Prop :=
  (∃ row row', (described stale).trace.answers =
    [(stale, .experiment row), (.update ⟨1⟩ { description := some "new" }, .experiment row')]) ∧
    ((described stale).store.experimentById ⟨1⟩).map (·.description) = some none

/-- An update of another field, and a start, take a field back if they read the row before it was
written. -/
theorem stale_write_reverts :
    Forgotten (.update ⟨1⟩ { traffic := some 50 }) ∧ Forgotten (.start ⟨1⟩) :=
  ⟨⟨⟨_, _, rfl⟩, rfl⟩, ⟨_, _, rfl⟩, rfl⟩

end System

end SplitTest
