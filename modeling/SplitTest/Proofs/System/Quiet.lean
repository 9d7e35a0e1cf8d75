import SplitTest.Proofs.System.Orderly

namespace SplitTest

variable {ι : Type}

/-- A service begins, or goes on with observers that do not break down. -/
def Move.Quiet : Move ι → Prop
  | .begin _ job => ∃ settings service, job = .service settings service
  | .proceed _ chance => chance.event = none
  | .undo _ => False

structure Client.Quiet (client : Client) : Prop where
  idle : client.task = none → client.unit.pending = []
  served : ∀ {task}, client.task = some task →
    ∃ settings service, task.job = .service settings service
  calm : ∀ {task}, client.task = some task → task.exchanges.Calm
  clear : ∀ {task}, client.task = some task → ¬ task.exchanges.Unsettled → client.unit.pending = []

namespace System

variable {w : System ι} {i : ι} {task : Task}

def Quiet (w : System ι) : Prop := ∀ i, (w.clients i).Quiet

theorem quiet_start {store : Store} {units : ι → UnitOfWork}
    (empty : ∀ i, (units i).pending = []) : Quiet (start store units) :=
  fun i => ⟨fun _ => empty i, nofun, nofun, nofun⟩

namespace Quiet

theorem nothing_to_take_back {request : Request}
    {next : Except Fault request.Reply → Program (Outcome Value)} (quiet : Quiet w)
    (orderly : Orderly w) (busy : (w.clients i).task = some task)
    (rest : task.rest = .ask request next) (asked : request = .rollback) :
    (w.clients i).unit.pending = [] := by
  subst asked
  obtain ⟨settings, service, job⟩ := (quiet i).served busy
  have meets := (orderly.faithful busy).meets
  rw [rest, job, Program.meets_ask] at meets
  exact (quiet i).clear busy (meets.1 ((quiet i).calm busy)).not_unsettled

theorem not_left {next : Except Fault Unit → Program (Outcome Value)} {undo : Undo}
    {pending : List Undo} (quiet : Quiet w) (orderly : Orderly w)
    (busy : (w.clients i).task = some task) (rest : task.rest = .ask .rollback next) :
    (w.clients i).unit.pending ≠ undo :: pending := by
  intro left
  have empty := quiet.nothing_to_take_back orderly busy rest rfl
  rw [left] at empty
  cases empty

variable [DecidableEq ι]

theorem setClient {client : Client} (quiet : Quiet w) (own : client.Quiet) :
    Quiet (w.setClient i client) := by
  intro j
  by_cases same : j = i
  · subst same
    rwa [setClient_self]
  · rw [setClient_of_ne same]
    exact quiet j

theorem finish {result : Except Fault (Outcome Value)} (quiet : Quiet w) (orderly : Orderly w)
    (busy : (w.clients i).task = some task) (rest : task.rest = .done result) :
    Quiet (w.finish i task result) := by
  obtain ⟨settings, service, job⟩ := (quiet i).served busy
  have meets := (orderly.faithful busy).meets
  rw [rest, job, Program.meets_done] at meets
  have clear := (quiet i).clear busy (meets.1 ((quiet i).calm busy))
  exact quiet.setClient ⟨fun _ => clear, nofun, nofun, nofun⟩

theorem answer {chance : Chance} {request : Request}
    {next : Except Fault request.Reply → Program (Outcome Value)} (quiet : Quiet w)
    (orderly : Orderly w) (busy : (w.clients i).task = some task)
    (rest : task.rest = .ask request next) (calm : chance.event = none) :
    Quiet (w.answer i chance task request next) := by
  have empty := quiet.nothing_to_take_back orderly busy rest
  have served := (quiet i).served busy
  refine quiet.setClient ⟨nofun, ?_, ?_, ?_⟩
  · rintro _ ⟨⟩
    exact served
  · rintro _ ⟨⟩
    exact History.calm_cons.mpr ⟨Request.perform_calm empty calm, (quiet i).calm busy⟩
  · rintro _ ⟨⟩
    exact Request.perform_clear empty ((quiet i).clear busy)

theorem step {move : Move ι} (quiet : Quiet w) (orderly : Orderly w) (calm : move.Quiet) :
    Quiet (w.step move) := by
  have turn := w.turn_step move
  generalize w.step move = w' at turn ⊢
  cases turn with
  | skipped => exact quiet
  | accepted idle =>
    obtain ⟨settings, service, rfl⟩ := calm
    have clear := (quiet _).idle idle
    refine quiet.setClient ⟨nofun, ?_, ?_, ?_⟩
    · rintro _ ⟨⟩
      exact ⟨settings, service, rfl⟩
    · rintro _ ⟨⟩
      exact History.calm_nil
    · exact fun _ _ => clear
  | finished busy rest => exact quiet.finish orderly busy rest
  | tookBack busy rest left => exact (quiet.not_left orderly busy rest left).elim
  | answered busy rest => exact quiet.answer orderly busy rest calm
  | meddled => exact calm.elim

end Quiet

end System

end SplitTest
