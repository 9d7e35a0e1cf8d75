import SplitTest.Proofs.Store.Sequence
import SplitTest.Proofs.System.Isolation

namespace SplitTest

/-- No step that takes a write back breaks down. -/
def Move.Whole {ι : Type} : Move ι → Prop
  | .proceed _ chance => chance.undo = none
  | _ => True

structure Line (ι : Type) where
  client : ι
  observation : StoredObservation
  settled : Bool := false

variable {ι : Type} [DecidableEq ι]

namespace Line

def number (line : Line ι) : UInt64 := line.observation.sequence

def settle (i : ι) (line : Line ι) : Line ι :=
  { line with settled := line.settled || line.client = i }

def spared (i : ι) (line : Line ι) : Bool := line.settled || line.client ≠ i

end Line

namespace Entry

def drew : Entry ι → Bool
  | ⟨_, _, _, .replied x⟩ => x.drew
  | _ => false

def book (number : UInt64) (lines : List (Line ι)) : Entry ι → List (Line ι)
  | ⟨i, _, _, .replied ⟨.call (.recordMetric row), .ok _⟩⟩ =>
    lines ++ [{ client := i, observation := ⟨row, number⟩ }]
  | ⟨i, _, _, .replied ⟨.commit, .ok _⟩⟩ => lines.map (·.settle i)
  | ⟨i, _, _, .replied ⟨.rollback, .ok _⟩⟩ => lines.filter (·.spared i)
  | _ => lines

theorem book_silent {number : UInt64} {lines : List (Line ι)} {i : ι} {ticket : Nat} {job : Job}
    {x : Exchange} (unsettled : x.settled = false)
    (other : ∀ row reply, x ≠ ⟨.call (.recordMetric row), .ok reply⟩) :
    book number lines ⟨i, ticket, job, .replied x⟩ = lines := by
  unfold book
  split
  · next same =>
    cases same
    exact absurd rfl (other _ _)
  · next same =>
    cases same
    cases unsettled
  · next same =>
    cases same
    cases unsettled
  · rfl

end Entry

namespace Trace

def draws (trace : Trace ι) : Nat := trace.countP (·.drew)

def ledger : Trace ι → List (Line ι)
  | [] => []
  | entry :: trace => entry.book (.ofNat (draws trace + 1)) (ledger trace)

end Trace

namespace System

variable {w w' : System ι} {i j : ι}

def numbers (w : System ι) (i : ι) : List UInt64 := (w.pending i).filterMap (·.number?)

def RollingBack (w : System ι) (i : ι) : Prop :=
  ∃ task next, (w.clients i).task = some task ∧ task.rest = .ask .rollback next

inductive Posting (w w' : System ι) : Prop
  | nothing (observations : w'.store.observations = w.store.observations)
      (numbers : w'.numbers = w.numbers) (ledger : w'.trace.ledger = w.trace.ledger)
      (rolling : ∀ j, w.RollingBack j → w'.RollingBack j)
  | recorded (i : ι) (row : Observation)
      (observations : w'.store.observations =
        w.store.observations ++ [⟨row, w.store.nextSequence⟩])
      (own : w'.numbers i = w.store.nextSequence :: w.numbers i)
      (others : ∀ j, j ≠ i → w'.numbers j = w.numbers j)
      (ledger : w'.trace.ledger = w.trace.ledger ++
        [{ client := i, observation := ⟨row, .ofNat (w.trace.draws + 1)⟩ }])
      (draws : w'.trace.draws = w.trace.draws + 1)
      (rolling : ∀ j, w.RollingBack j → w'.RollingBack j)
  | committed (i : ι) (observations : w'.store.observations = w.store.observations)
      (own : w'.numbers i = []) (others : ∀ j, j ≠ i → w'.numbers j = w.numbers j)
      (ledger : w'.trace.ledger = w.trace.ledger.map (·.settle i)) (calm : ¬ w.RollingBack i)
      (rolling : ∀ j, w.RollingBack j → w'.RollingBack j)
  | rolledBack (i : ι) (observations : w'.store.observations = w.store.observations)
      (own : w.numbers i = []) (numbers : w'.numbers = w.numbers)
      (ledger : w'.trace.ledger = w.trace.ledger.filter (·.spared i))
      (rolling : ∀ j, j ≠ i → w.RollingBack j → w'.RollingBack j)
  | erased (i : ι) (number : UInt64)
      (observations : w'.store.observations =
        w.store.observations.filter (·.sequence ≠ number))
      (own : w.numbers i = number :: w'.numbers i)
      (others : ∀ j, j ≠ i → w'.numbers j = w.numbers j)
      (ledger : w'.trace.ledger = w.trace.ledger)
      (busy : w'.RollingBack i) (rolling : ∀ j, w.RollingBack j → w'.RollingBack j)

omit [DecidableEq ι] in
theorem numbers_eq {undo : Option Undo} (kept : w'.pending i = undo.toList ++ w.pending i) :
    w'.numbers i = (undo.bind Undo.number?).toList ++ w.numbers i := by
  rw [numbers, kept, List.filterMap_append]
  cases undo with
  | none => rfl
  | some undo =>
    rw [Option.toList_some, List.filterMap_cons, Option.bind_some]
    cases undo.number? <;> rfl

omit [DecidableEq ι] in
theorem numbers_same (same : w'.pending j = w.pending j) : w'.numbers j = w.numbers j :=
  congrArg (List.filterMap _) same

theorem numbers_ext (own : w'.numbers i = w.numbers i)
    (others : ∀ j, j ≠ i → w'.numbers j = w.numbers j) : w'.numbers = w.numbers := by
  funext j
  by_cases mine : j = i
  · rw [mine, own]
  · exact others j mine

omit [DecidableEq ι] in
theorem RollingBack.step (rolling : w.RollingBack j) (others : j ≠ i → w'.clients j = w.clients j)
    (own : w.RollingBack i → w'.RollingBack i) : w'.RollingBack j := by
  by_cases mine : j = i
  · subst mine
    exact own rolling
  · rwa [RollingBack, others mine]

section Answers

variable {chance : Chance} {task : Task} {request : Request}
  {next : Except Fault request.Reply → Program (Outcome Value)}

theorem clients_answer (other : j ≠ i) :
    (w.answer i chance task request next).clients j = w.clients j :=
  setClient_of_ne (w := { w with store := _ }) other

theorem pending_answer : (w.answer i chance task request next).pending i =
    (request.perform chance w.store (w.clients i).unit).2.2.pending :=
  pending_self (w := { w with store := _ })

theorem numbers_answer (other : j ≠ i) :
    (w.answer i chance task request next).numbers j = w.numbers j := by
  rw [numbers, pending, clients_answer other, ← pending, ← numbers]

omit [DecidableEq ι] in
theorem not_rolling (busy : (w.clients i).task = some task) (rest : task.rest = .ask request next)
    (other : request ≠ .rollback) : ¬ w.RollingBack i := by
  rintro ⟨task', next', busy', rest'⟩
  cases busy.symm.trans busy'
  rw [rest] at rest'
  exact other (Program.ask.inj rest').1

theorem rolling_answer (busy : (w.clients i).task = some task)
    (rest : task.rest = .ask request next) (other : request ≠ .rollback)
    (rolling : w.RollingBack j) :
    (w.answer i chance task request next).RollingBack j :=
  rolling.step clients_answer fun own => absurd own (not_rolling busy rest other)

theorem posting_silent (busy : (w.clients i).task = some task)
    (rest : task.rest = .ask request next)
    (still : (request.perform chance w.store (w.clients i).unit).2 = (w.store, (w.clients i).unit))
    (other : request ≠ .rollback)
    (ledger : (w.answer i chance task request next).trace.ledger = w.trace.ledger) :
    Posting w (w.answer i chance task request next) := by
  apply Posting.nothing
  case observations =>
    change (request.perform chance w.store (w.clients i).unit).2.1.observations = _
    rw [still]
  case numbers =>
    refine numbers_ext (numbers_same ?_) fun j => numbers_answer
    rw [pending_answer, still]
    rfl
  case ledger => exact ledger
  case rolling => exact fun j => rolling_answer busy rest other

theorem posting_call {c : Call} {next : Except Fault c.Reply → Program (Outcome Value)}
    (journaled : w.Journaled) (busy : (w.clients i).task = some task)
    (rest : task.rest = .ask (.call c) next) :
    Posting w (w.answer i chance task (.call c) next) := by
  have rolling (j : ι) : w.RollingBack j → (w.answer i chance task (.call c) next).RollingBack j :=
    rolling_answer busy rest nofun
  cases performed : (Request.call c).perform chance w.store (w.clients i).unit with
  | mk reply result =>
    obtain ⟨s', u'⟩ := result
    have store : (w.answer i chance task (.call c) next).store = s' := by
      simp only [answer, performed]
      rfl
    have pending : (w.answer i chance task (.call c) next).pending i = u'.pending := by
      rw [pending_answer, performed]
    have trace : (w.answer i chance task (.call c) next).trace =
        ⟨i, task.ticket, task.job, .replied ⟨.call c, reply⟩⟩ :: w.trace := by
      rw [trace_answer, performed]
    obtain ⟨-, -, silent, -⟩ | ⟨c', answer, told, done, kept⟩ :=
      Request.perform_untaken (journaled i) rfl performed
    · have nothing : ((Request.call c).perform chance w.store (w.clients i).unit).2 = _ :=
        Request.perform_call_silent (by rw [performed]; exact silent)
      rw [performed] at nothing
      cases nothing
      have quiet : ∀ row reply', (⟨.call c, reply⟩ : Exchange) ≠
          ⟨.call (.recordMetric row), .ok reply'⟩ := by
        intro row reply' same
        rw [same] at silent
        cases silent
      refine posting_silent busy rest ?_ nofun ?_
      · rw [performed]
      · rw [trace]
        exact Entry.book_silent rfl quiet
    · cases told
      have numbers := numbers_eq (pending.trans kept)
      obtain ⟨row, same, observations, -, undo⟩ | ⟨quiet, observations, undo, -⟩ :=
        Store.observations_call done
      · apply Posting.recorded i row
        case observations => rw [store, observations]
        case own =>
          rw [numbers, undo]
          rfl
        case others => exact fun j => numbers_answer
        case ledger =>
          rw [trace, same]
          rfl
        case draws =>
          rw [trace, same]
          exact List.countP_cons_of_pos rfl
        case rolling => exact rolling
      · apply Posting.nothing
        case observations => rw [store, observations]
        case numbers =>
          rw [undo] at numbers
          exact numbers_ext numbers fun j => numbers_answer
        case ledger =>
          rw [trace]
          exact Entry.book_silent rfl quiet
        case rolling => exact rolling

theorem posting_commit {next : Except Fault Unit → Program (Outcome Value)}
    (busy : (w.clients i).task = some task) (rest : task.rest = .ask .commit next) :
    Posting w (w.answer i chance task .commit next) := by
  apply Posting.committed i
  case observations => rfl
  case own => rw [numbers, pending_answer]; rfl
  case others => exact fun j => numbers_answer
  case ledger => rfl
  case calm => exact not_rolling busy rest nofun
  case rolling => exact fun j => rolling_answer busy rest nofun

theorem posting_rollback {next : Except Fault Unit → Program (Outcome Value)}
    (whole : chance.undo = none) (untaken : (w.clients i).unit.takeBack? chance .rollback = none) :
    Posting w (w.answer i chance task .rollback next) := by
  have clear : w.pending i = [] := by
    cases left : (w.clients i).unit.pending with
    | nil => exact left
    | cons undo pending => simp [UnitOfWork.takeBack?, whole, left] at untaken
  have performed : Request.rollback.perform chance w.store (w.clients i).unit = _ :=
    Request.perform_rollback clear
  have none : w.numbers i = [] := by rw [numbers, clear]; rfl
  apply Posting.rolledBack i
  case own => exact none
  case observations =>
    change (Request.rollback.perform chance w.store (w.clients i).unit).2.1.observations = _
    rw [performed]
  case numbers =>
    refine numbers_ext (numbers_same ?_) fun j => numbers_answer
    rw [pending_answer, performed]
    rfl
  case ledger =>
    rw [trace_answer, performed]
    rfl
  case rolling =>
    intro j other rolling
    rwa [RollingBack, clients_answer other]

end Answers

theorem posting_takeBack {task : Task} {next : Except Fault Unit → Program (Outcome Value)}
    {undo : Undo} {pending : List Undo} (rest : task.rest = .ask .rollback next)
    (left : (w.clients i).unit.pending = undo :: pending) :
    Posting w (w.takeBack i task undo { (w.clients i).unit with pending }) := by
  have mine : (w.takeBack i task undo { (w.clients i).unit with pending }).clients i =
      { unit := { (w.clients i).unit with pending }, task := some task } := setClient_self
  have clients (j : ι) (other : j ≠ i) :
      (w.takeBack i task undo { (w.clients i).unit with pending }).clients j = w.clients j :=
    setClient_of_ne (w := { w with store := _ }) other
  have others (j : ι) (other : j ≠ i) :
      (w.takeBack i task undo { (w.clients i).unit with pending }).numbers j = w.numbers j :=
    numbers_same (congrArg (·.unit.pending) (clients j other))
  have busy' : (w.takeBack i task undo { (w.clients i).unit with pending }).RollingBack i :=
    ⟨task, next, by rw [mine], rest⟩
  have rolling (j : ι) (rolling : w.RollingBack j) :
      (w.takeBack i task undo { (w.clients i).unit with pending }).RollingBack j :=
    rolling.step (clients j) fun _ => busy'
  have kept : w.pending i = (some undo).toList ++
      (w.takeBack i task undo { (w.clients i).unit with pending }).pending i := by
    rw [System.pending, System.pending, mine, left]
    rfl
  have own := numbers_eq kept
  have observations := (w.store.observations_undo undo).2
  cases number : undo.number? with
  | none =>
    rw [number] at observations
    rw [Option.bind_some, number] at own
    exact .nothing observations (numbers_ext own.symm others) rfl rolling
  | some number' =>
    rw [number] at observations
    rw [Option.bind_some, number] at own
    exact .erased i number' observations own others rfl busy' rolling

theorem posting_step {move : Move ι} (journaled : w.Journaled) (own : move.Own)
    (whole : move.Whole) : Posting w (w.step move) := by
  have turn := w.turn_step move
  generalize w.step move = w' at turn ⊢
  cases turn with
  | skipped => exact .nothing rfl rfl rfl fun _ => id
  | @accepted i job idle =>
    refine .nothing rfl ?_ rfl fun j rolling => rolling.step (i := i) (fun other => ?_) ?_
    · funext j
      exact numbers_same (pending_same (w := w) { w.clients i with
        task := some { ticket := w.tickets, job, rest := job.program } } rfl j)
    · exact setClient_of_ne other
    · rintro ⟨task, next, busy, rest⟩
      rw [idle] at busy
      cases busy
  | @finished i chance task result busy rest =>
    refine .nothing rfl ?_ rfl fun j rolling => rolling.step (i := i) (fun other => ?_) ?_
    · funext j
      exact numbers_same (pending_same (w := w) { unit := (w.clients i).unit } rfl j)
    · exact setClient_of_ne other
    · rintro ⟨task', next, busy', rest'⟩
      cases busy.symm.trans busy'
      cases rest.symm.trans rest'
  | tookBack busy rest left => exact posting_takeBack rest left
  | @answered i chance task request next busy rest untaken =>
    cases request with
    | call c => exact posting_call journaled busy rest
    | commit => exact posting_commit busy rest
    | rollback => exact posting_rollback whole untaken
    | _ => exact posting_silent busy rest rfl nofun rfl
  | meddled => exact own.elim

omit [DecidableEq ι] in
theorem Shift.draws (shift : Shift w w') : w.trace.draws ≤ w'.trace.draws :=
  shift.trace_suffix.sublist.countP_le

omit [DecidableEq ι] in
theorem Shift.next (shift : Shift w w')
    (next : w.store.nextSequence = .ofNat (w.trace.draws + 1)) :
    w'.store.nextSequence = .ofNat (w'.trace.draws + 1) := by
  have told {entry : Entry ι} (trace : w'.trace = entry :: w.trace) :
      w'.trace.draws = w.trace.draws + if entry.drew then 1 else 0 := by
    rw [trace]
    exact List.countP_cons
  cases shift with
  | dropped store left trace =>
    obtain same | ⟨entry, same, quiet⟩ := trace
    · rw [store, same, next]
    · have silent : entry.drew = false := by
        obtain ⟨_, _, _, x | _ | _⟩ := entry
        · exact Exchange.drew_eq_false (quiet x rfl).1
        · rfl
        · rfl
      rw [store, told same, silent, next]
      rfl
  | called i task c go reply busy rest performed kept others trace =>
    have another : UInt64.ofNat (w.trace.draws + 1) + 1 = .ofNat (w.trace.draws + 1 + 1) :=
      (UInt64.ofNat_add _ 1).symm
    rw [told trace]
    obtain ⟨row, same, -, later, -⟩ | ⟨-, -, -, later⟩ := Store.observations_call performed
    · rw [same, later, next]
      exact another
    · rw [later, next]
      change _ = UInt64.ofNat (_ + (if Exchange.drew ⟨.call c, .ok reply⟩ then 1 else 0) + 1)
      split
      · exact another
      · exact UInt64.add_zero _
  | undone i task go undo busy rest store left others trace =>
    rw [told trace, store, (w.store.observations_undo undo).1, next]
    rfl

theorem RollingBack.observations (rolling : w.RollingBack i) (chance : Chance) :
    (w.step (.proceed i chance)).store.observations = w.store.observations ∨
      ∃ number ∈ w.numbers i, (w.step (.proceed i chance)).store.observations =
        w.store.observations.filter (·.sequence ≠ number) := by
  obtain ⟨task, next, busy, rest⟩ := rolling
  have turn : Turn w (.proceed i chance) (w.step (.proceed i chance)) :=
    w.turn_step (.proceed i chance)
  generalize w.step (.proceed i chance) = w' at turn ⊢
  cases turn with
  | skipped => exact .inl rfl
  | finished => exact .inl rfl
  | @tookBack _ _ _ _ undo pending busy' rest' left =>
    have observations := (w.store.observations_undo undo).2
    cases number : undo.number? with
    | none =>
      rw [number] at observations
      exact .inl observations
    | some number' =>
      rw [number] at observations
      refine .inr ⟨number', List.mem_filterMap.mpr ⟨undo, ?_, number⟩, observations⟩
      rw [System.pending, left]
      exact List.mem_cons_self
  | answered busy' rest' untaken =>
    cases busy.symm.trans busy'
    cases rest.symm.trans rest'
    have same := (Request.perform_rollback_untaken (s := w.store) untaken).1
    exact .inl (congrArg (·.observations) same)

end System

end SplitTest
