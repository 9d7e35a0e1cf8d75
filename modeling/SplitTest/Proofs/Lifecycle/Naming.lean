import SplitTest.Proofs.Lifecycle.Origin

namespace SplitTest

theorem Exchange.inserted?_of_created {x : Exchange} {row : Experiment}
    (created : x.created? = some row) :
    x.inserted? = some (.experiment row.id) ∧ x.wrote = true ∧ x.settled = false := by
  unfold created? at created
  split at created
  · cases created
    exact ⟨rfl, rfl, rfl⟩
  · cases created

theorem Trace.history_mono {ι : Type} {trace trace' : Trace ι} {ticket : Nat} {x : Exchange}
    (m : x ∈ trace.history ticket) (suffix : trace <:+ trace') : x ∈ trace'.history ticket := by
  obtain ⟨entry, member, own, told⟩ := mem_history.mp m
  exact mem_history.mpr ⟨entry, suffix.subset member, own, told⟩

theorem Entry.answer?_eq_some {ι : Type} {entry : Entry ι} {s : Service} {value : Value}
    (told : entry.answer? = some (s, value)) :
    (∃ settings, entry.job = .service settings s) ∧ entry.deed = .ended (.ok (.ok value)) := by
  obtain ⟨i, ticket, ⟨settings, s'⟩ | _, x | _ | (_ | _ | _)⟩ := entry
  all_goals cases told
  exact ⟨⟨settings, rfl⟩, rfl⟩

def Service.creates (key : NameKey) : Service → Bool
  | create draft organization => (organization, draft.name) = key
  | _ => false

theorem Service.creates_iff {key : NameKey} {s : Service} (creates : s.creates key) :
    ∃ draft organization, s = create draft organization ∧ (organization, draft.name) = key := by
  cases s with
  | create draft organization => exact ⟨draft, organization, rfl, of_decide_eq_true creates⟩
  | _ => cases creates

namespace System

variable {ι : Type} {w w' : System ι} {i : ι} {task : Task} {id : Uuid}

structure Holds (w : System ι) (i : ι) (h : History) (id : Uuid) : Prop where
  stored : w.store.Has (.experiment id)
  own : ∀ j, .experiment id ∈ w.erasures j → j = i ∧ h.Unsettled

structure Permanent (w : System ι) (id : Uuid) : Prop where
  stored : w.store.Has (.experiment id)
  free : ∀ j, .experiment id ∉ w.erasures j

def Holding (w : System ι) : Prop := ∀ i task, (w.clients i).task = some task →
  (∀ next, task.rest ≠ .ask .rollback next) → task.exchanges.rollbacks = 0 →
    ∀ x ∈ task.exchanges, ∀ row, x.created? = some row → w.Holds i task.exchanges row.id

def Answered (w : System ι) : Prop := ∀ entry ∈ w.trace, ∀ draft organization value,
  entry.answer? = some (.create draft organization, value) → ∃ row, value = .experiment row ∧
    row.nameKey = (organization, draft.name) ∧
    (∃ x ∈ w.trace.history entry.ticket, x.created? = some row) ∧ w.Permanent row.id

theorem Holds.permanent {h : History} (holds : w.Holds i h id) (settled : ¬ h.Unsettled) :
    w.Permanent id where
  stored := holds.stored
  free j m := settled (holds.own j m).2

theorem Permanent.shift (permanent : w.Permanent id) (shift : Shift w w') : w'.Permanent id := by
  obtain ⟨stored, sub⟩ := shift.keeps_row permanent.stored fun i _ _ _ _ => permanent.free i
  exact ⟨stored, fun j m => permanent.free j (sub j m)⟩

theorem Holds.shift (holds : w.Holds i task.exchanges id) (busy : (w.clients i).task = some task)
    (rest : ∀ next, task.rest ≠ .ask .rollback next) (shift : Shift w w') :
    w'.Holds i task.exchanges id := by
  have calm (j : ι) (task' : Task) (next : Except Fault Unit → Program (Outcome Value))
      (busy' : (w.clients j).task = some task') (rest' : task'.rest = .ask .rollback next) :
      .experiment id ∉ w.erasures j := by
    intro m
    have mine := (holds.own j m).1
    subst mine
    cases busy.symm.trans busy'
    exact rest next rest'
  obtain ⟨stored, sub⟩ := shift.keeps_row holds.stored calm
  exact ⟨stored, fun j m => holds.own j (sub j m)⟩

theorem holds_created {ticket : Nat} {job : Job} {h : History} {x : Exchange} {row : Experiment}
    (owned : Owned w) (shift : Shift w w')
    (trace : w'.trace = ⟨i, ticket, job, .replied x⟩ :: w.trace) (created : x.created? = some row) :
    w'.Holds i (x :: h) row.id := by
  obtain ⟨inserted, wrote, unsettled⟩ := Exchange.inserted?_of_created created
  obtain ⟨fresh, stored⟩ := shift.inserted trace inserted
  refine ⟨stored, ?_⟩
  intro j m
  obtain old | ⟨-, -, latest⟩ := shift.mem_erasures m
  · exact absurd (owned.held j _ old) fresh
  · rw [trace] at latest
    have own := latest.symm.trans (Trace.inserter?_own inserted)
    exact ⟨Option.some.inj own, unsettled, .inl wrote⟩

theorem Holds.replied {ticket : Nat} {job : Job} {h : History} {x : Exchange}
    (holds : w'.Holds i h id) (shift : Shift w w')
    (trace : w'.trace = ⟨i, ticket, job, .replied x⟩ :: w.trace) : w'.Holds i (x :: h) id where
  stored := holds.stored
  own j m := by
    obtain ⟨mine, unsettled⟩ := holds.own j m
    refine ⟨mine, ?_, .inr unsettled⟩
    cases settled : x.settled with
    | false => rfl
    | true =>
      rw [mine, erasures, shift.clear trace settled] at m
      cases m

structure Naming (w : System ι) : Prop where
  named : Named w
  creating : w.Creating
  holding : w.Holding
  answered : w.Answered

theorem naming_start : Naming (start {} fun _ : ι => {}) where
  named := named_start
  creating := creating_start _ _
  holding i task busy := by cases busy
  answered entry m := by cases m

theorem Naming.of_answer (naming : Naming w) (once : w.trace.createdIds.Nodup) {entry : Entry ι}
    (m : entry ∈ w.trace) {draft : Draft} {organization : Uuid} {value : Value}
    (told : entry.answer? = some (.create draft organization, value)) :
    ∃ row e, value = .experiment row ∧ w.store.experimentById row.id = some e ∧
      e.nameKey = (organization, draft.name) ∧
      ∃ insertion ∈ w.trace, insertion.ticket = entry.ticket ∧ insertion.created? = some row := by
  obtain ⟨row, same, named, ⟨x, member, created⟩, permanent⟩ :=
    naming.answered entry m draft organization value told
  obtain ⟨e, stored⟩ := Option.isSome_iff_exists.mp permanent.stored
  obtain ⟨insertion, inserted, own, told⟩ := Trace.mem_history.mp member
  have creation : insertion.created? = some row := by
    obtain ⟨_, _, _, _⟩ := insertion
    cases told
    exact created
  have known : w.trace.Knows row := ⟨insertion, inserted, row, creation, rfl, rfl⟩
  have id : e.id = row.id := naming.named.indexed.keyed row.id e stored
  have key := (naming.named.rooted.stored row.id e stored).nameKey_eq once known id
  exact ⟨row, e, same, stored, key.trans named, insertion, inserted, own, creation⟩

theorem Naming.ticket_eq (naming : Naming w) (once : w.trace.createdIds.Nodup) {key : NameKey}
    {entry entry' : Entry ι} (m : entry ∈ w.trace) (m' : entry' ∈ w.trace) {a a' : Service × Value}
    (told : entry.answer? = some a) (told' : entry'.answer? = some a')
    (creates : a.1.creates key) (creates' : a'.1.creates key) : entry.ticket = entry'.ticket := by
  obtain ⟨s, value⟩ := a
  obtain ⟨s', value'⟩ := a'
  obtain ⟨draft, organization, rfl, same⟩ := Service.creates_iff creates
  obtain ⟨draft', organization', rfl, same'⟩ := Service.creates_iff creates'
  obtain ⟨row, e, -, stored, named, insertion, inserted, own, created⟩ :=
    naming.of_answer once m told
  obtain ⟨row', e', -, stored', named', insertion', inserted', own', created'⟩ :=
    naming.of_answer once m' told'
  have id : row.id = row'.id := by
    apply naming.named.indexed.eq_of_nameKey stored stored'
    rw [named, named', same, same']
  have one := Trace.eq_of_created once inserted inserted' created created' id
  rw [← own, ← own', one]

variable [DecidableEq ι] {move : Move ι}

theorem Holding.step (holding : w.Holding) (owned : Owned w) (shift : Shift w (w.step move)) :
    (w.step move).Holding := by
  intro i task busy rest whole x m row created
  obtain busy | ⟨job, -, rfl⟩ | ⟨chance, before, request, next, earlier, asked, answered, rfl⟩ :=
    busy_step busy
  · exact (holding i task busy rest whole x m row created).shift busy rest shift
  · cases m
  · have trace : (w.step move).trace = _ := (congrArg trace answered).trans trace_answer
    dsimp only at whole
    have unasked : request ≠ .rollback := by
      rintro rfl
      simp at whole
    have whole : before.exchanges.rollbacks = 0 := by
      rw [History.rollbacks_cons] at whole
      exact (Nat.add_eq_zero_iff.mp whole).1
    obtain new | old := List.mem_cons.mp m
    · rw [new] at created
      exact holds_created owned shift trace created
    · have rest (next' : Except Fault Unit → Program (Outcome Value)) :
          before.rest ≠ .ask .rollback next' := by
        rw [asked]
        rintro ⟨⟩
        exact unasked rfl
      have held := holding i before earlier rest whole x old row created
      exact (held.shift earlier rest shift).replied shift trace

theorem Answered.step (answered : w.Answered) (creating : w.Creating) (holding : w.Holding)
    (orderly : Orderly w) (shift : Shift w (w.step move)) : (w.step move).Answered := by
  have suffix := shift.trace_suffix
  have old (entry : Entry ι) (m : entry ∈ w.trace) (draft : Draft) (organization : Uuid)
      (value : Value) (told : entry.answer? = some (.create draft organization, value)) :
      ∃ row, value = .experiment row ∧ row.nameKey = (organization, draft.name) ∧
        (∃ x ∈ (w.step move).trace.history entry.ticket, x.created? = some row) ∧
        (w.step move).Permanent row.id := by
    obtain ⟨row, same, named, ⟨x, m, created⟩, permanent⟩ :=
      answered entry m draft organization value told
    exact ⟨row, same, named, ⟨x, Trace.history_mono m suffix, created⟩, permanent.shift shift⟩
  have turn := w.turn_step move
  generalize w.step move = w' at turn shift suffix old ⊢
  intro entry m draft organization value told
  cases turn with
  | skipped => exact old entry m draft organization value told
  | accepted => exact old entry m draft organization value told
  | meddled => exact old entry m draft organization value told
  | tookBack =>
    obtain new | m := List.mem_cons.mp m
    · subst new
      obtain ⟨-, ended⟩ := Entry.answer?_eq_some told
      cases ended
    · exact old entry m draft organization value told
  | answered =>
    obtain new | m := List.mem_cons.mp m
    · subst new
      obtain ⟨-, ended⟩ := Entry.answer?_eq_some told
      cases ended
    · exact old entry m draft organization value told
  | @finished i chance task result busy rest =>
    obtain new | m := List.mem_cons.mp m
    · subst new
      obtain ⟨⟨settings, job⟩, ended⟩ := Entry.answer?_eq_some told
      have ended : result = .ok (.ok value) := Deed.ended.inj ended
      have meets := creating i task busy
      rw [rest, Program.meets_done] at meets
      obtain ⟨row, same, inserted, settled⟩ := meets settings draft organization value job ended
      obtain ⟨x, m, created⟩ := inserted.inserted
      have holds := holding i task busy (by rw [rest]; nofun) inserted.rollbacks x m row created
      have kept : x ∈ w.trace.history task.ticket := by
        rw [(orderly.faithful busy).kept]
        exact m
      exact ⟨row, same, inserted.named, ⟨x, Trace.history_mono kept suffix, created⟩,
        (holds.permanent settled).shift shift⟩
    · exact old entry m draft organization value told

theorem Naming.step (naming : Naming w) (served : move.Served)
    (once : (w.step move).trace.createdIds.Nodup) : Naming (w.step move) := by
  have shift := shift_step naming.named.journaled served.own
  constructor
  case named => exact naming.named.step served once
  case creating => exact naming.creating.step
  case holding => exact naming.holding.step naming.named.owned shift
  case answered =>
    exact naming.answered.step naming.creating naming.holding naming.named.orderly shift

theorem naming_run {moves : List (Move ι)} (served : ∀ move ∈ moves, move.Served)
    (once : ((start {} fun _ => {}).run moves).trace.createdIds.Nodup) :
    Naming ((start {} fun _ => {}).run moves) := by
  -- That ids differ is known of the whole run only, so it cannot be assumed of its moves one by one.
  let keeps (w : System ι) : Prop := w.Journaled ∧ (w.trace.createdIds.Nodup → Naming w)
  have kept : keeps ((start {} fun _ => {}).run moves) := by
    apply run_keeps keeps
    · intro w move m kept
      refine ⟨journaled_step kept.1, ?_⟩
      intro once
      have earlier := createdIds_step (served move m).own kept.1 once
      exact (kept.2 earlier).step (served move m) once
    · exact ⟨journaled_start _, fun _ => naming_start⟩
  exact kept.2 once

theorem trace_suffix_run {moves : List (Move ι)} (own : ∀ move ∈ moves, move.Own)
    (journaled : w.Journaled) : w.trace <:+ (w.run moves).trace := by
  induction moves generalizing w with
  | nil => exact List.suffix_refl _
  | cons move moves ih =>
    have shift := shift_step journaled (own move List.mem_cons_self)
    apply shift.trace_suffix.trans
    apply ih _ (journaled_step journaled)
    exact fun later m => own later (List.mem_cons_of_mem _ m)

/-- However creates, updates, starts and stops interleave and whatever is rolled back, the index
has an entry for each experiment under its name and no other, one call at most is answered that it
created an experiment of a name, and that experiment is found under it from then on. -/
theorem run_names_unique (before after : List (Move ι))
    (served : ∀ move ∈ before ++ after, move.Served)
    (once : ((start {} fun _ => {}).run (before ++ after)).trace.createdIds.Nodup) :
    let middle := (start {} fun _ => {}).run before
    let final := (start {} fun _ => {}).run (before ++ after)
    (∀ key id, final.store.names[key]? = some id ↔
      ∃ e, final.store.experimentById id = some e ∧ e.nameKey = key) ∧
    (∀ key, final.trace.answers.countP (·.1.creates key) ≤ 1) ∧
    ∀ draft organization value, (.create draft organization, value) ∈ middle.trace.answers →
      ∃ row e, value = .experiment row ∧
        final.store.experimentByName draft.name organization = .ok (some e) ∧ e.id = row.id := by
  intro middle final
  have naming : Naming final := naming_run served once
  have indexed := naming.named.indexed
  refine ⟨fun key id => indexed.getElem?_names, ?_, ?_⟩
  · intro key
    apply Trace.countP_answers_le_one naming.named.orderly.once
    intro entry m entry' m' a told a' told' creates creates'
    exact naming.ticket_eq once m m' told told' creates creates'
  · intro draft organization value answered
    obtain ⟨entry, m, told⟩ := List.mem_filterMap.mp answered
    have own (move : Move ι) (m : move ∈ before ++ after) : move.Own := (served move m).own
    have suffix : middle.trace <:+ final.trace := by
      have journaled := (run_own {} fun move m => own move (List.mem_append_left _ m)).1
      have later := trace_suffix_run (fun move m => own move (List.mem_append_right _ m)) journaled
      rw [← run_append] at later
      exact later
    obtain ⟨row, e, same, stored, named, -⟩ := naming.of_answer once (suffix.subset m) told
    refine ⟨row, e, same, ?_, indexed.keyed row.id e stored⟩
    obtain ⟨here, called⟩ := Prod.mk.inj named
    have found := indexed.experimentByName stored
    rw [here, called] at found
    exact found

def planned (name : String) : Draft where
  name := name
  variants := Std.ExtTreeMap.ofList [("a", Json.null), ("b", Json.null)]

def asking (i : Fin 3) (service : Service) : Move (Fin 3) := .begin i (.service {} service)

def going (i : Fin 3) (n : Nat) (id : Uuid) : List (Move (Fin 3)) :=
  List.replicate n (.proceed i { id })

theorem run_names_unique_race :
    let before := asking 0 (.create (planned "colour") ⟨9⟩) :: going 0 3 ⟨1⟩ ++
      asking 1 (.create (planned "colour") ⟨9⟩) :: going 1 3 ⟨2⟩ ++ going 1 4 ⟨2⟩ ++ going 0 3 ⟨1⟩
    let after := asking 2 (.update ⟨2⟩ { description := some "late" }) :: going 2 6 ⟨3⟩
    let middle := (start {} fun _ => {}).run before
    let final := (start {} fun _ => {}).run (before ++ after)
    middle.trace.answers.length = 1 ∧ final.trace.answers.length = 2 ∧
      final.trace.answers.countP (·.1.creates (⟨9⟩, "colour")) ≤ 1 ∧
      ∀ value, (.create (planned "colour") ⟨9⟩, value) ∈ middle.trace.answers →
        ∃ row e, value = .experiment row ∧
          final.store.experimentByName "colour" ⟨9⟩ = .ok (some e) ∧ e.id = row.id := by
  intro before after middle final
  have served : ∀ move ∈ before ++ after, move.Served := by
    simp [before, after, asking, going, Move.Served]
  have unique := run_names_unique before after served (by decide +kernel)
  exact ⟨by decide +kernel, by decide +kernel, unique.2.1 _, unique.2.2 (planned "colour") ⟨9⟩⟩

/-- The moves of three clients that draw one id. The first one inserts an experiment, breaks down,
and takes it back with its next call; the second one inserts another experiment under the id, and
the third one writes the first experiment back, which it read before. -/
def repeated : List (Move (Fin 3)) :=
  asking 0 (.create (planned "colour") ⟨9⟩) :: going 0 4 ⟨1⟩ ++
    List.replicate 3 (.proceed 0 { event := some .danglingName }) ++
    asking 2 (.update ⟨1⟩ { description := some "late" }) :: going 2 1 ⟨1⟩ ++
    asking 0 (.get ⟨8⟩) :: going 0 4 ⟨1⟩ ++
    asking 1 (.create (planned "shape") ⟨9⟩) :: going 1 7 ⟨1⟩

def overwritten : List (Move (Fin 3)) :=
  asking 0 (.create (planned "colour") ⟨9⟩) :: going 0 7 ⟨3⟩ ++ going 2 5 ⟨1⟩ ++
    asking 0 (.create (planned "shape") ⟨9⟩) :: going 0 7 ⟨4⟩

/-- An id is drawn again after its insertion was taken back. Two creations of one name are answered,
the first of the experiments is no longer found under it, and it shares a name with another one. -/
theorem repeated_id_renames :
    let middle := (start {} fun _ => {}).run repeated
    let final := middle.run overwritten
    middle.trace.answers.countP (·.1.creates (⟨9⟩, "shape")) = 1 ∧
      (middle.store.experimentByName "shape" ⟨9⟩).toOption.map (Option.map (·.id)) =
        some (some ⟨1⟩) ∧
      final.trace.answers.countP (·.1.creates (⟨9⟩, "shape")) = 2 ∧
      (final.store.experimentByName "shape" ⟨9⟩).toOption.map (Option.map (·.id)) =
        some (some ⟨4⟩) ∧
      (final.store.experimentById ⟨1⟩).map (·.nameKey) = some (⟨9⟩, "colour") ∧
      (final.store.experimentById ⟨3⟩).map (·.nameKey) = some (⟨9⟩, "colour") := by
  decide +kernel

end System

end SplitTest
