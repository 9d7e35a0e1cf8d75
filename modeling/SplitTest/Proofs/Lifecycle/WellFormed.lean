import SplitTest.Proofs.Lifecycle.Checks
import SplitTest.Proofs.Lifecycle.StateMachine
import SplitTest.Proofs.System.Rows

namespace SplitTest

variable {ι : Type}

structure Experiment.WellFormed (settings : Settings) (e : Experiment) : Prop extends Timely e where
  named : e.name ≠ ""
  short : e.name.utf8ByteSize ≤ settings.maxNameLength.toNat
  split : 2 ≤ e.variants.size
  labelled : "" ∉ e.variants
  traffic : 1 ≤ e.traffic ∧ e.traffic ≤ 100
  unpaused : e.status ≠ .paused

theorem Changes.apply_checked {changes : Changes} {e : Experiment}
    (checked : Lifecycle.checkChanges changes = .ok ())
    (variants : Lifecycle.checkVariants e.variants = .ok ())
    (traffic : Lifecycle.checkTraffic e.traffic = .ok ()) :
    Lifecycle.checkVariants (changes.apply e).variants = .ok () ∧
      Lifecycle.checkTraffic (changes.apply e).traffic = .ok () := by
  obtain ⟨given, given'⟩ := Lifecycle.checkChanges_eq_ok.mp checked
  unfold apply
  cases named : changes.variants <;> cases named' : changes.traffic
  all_goals simp_all

namespace Service

variable {settings : Settings} {service : Service} {e row : Experiment} {expected : Status}

theorem Creates.wellFormed (creates : service.Creates settings row) : row.WellFormed settings := by
  have timely := creates.timely
  cases service with
  | create draft organization =>
    obtain ⟨checked, now, same⟩ := creates
    obtain ⟨named, short, variants, traffic⟩ := Lifecycle.checkDraft_eq_ok.mp checked
    obtain ⟨split, labelled⟩ := Lifecycle.checkVariants_eq_ok.mp variants
    rw [same] at timely ⊢
    exact ⟨timely, named, short, split, labelled, Lifecycle.checkTraffic_eq_ok.mp traffic, nofun⟩
  | _ => exact creates.elim

theorem Revises.wellFormed (revises : service.Revises e row expected)
    (formed : e.WellFormed settings) : row.WellFormed settings := by
  have timely := revises.timely formed.toTimely
  cases service with
  | update id changes =>
    obtain ⟨draft, -, checked, now, rfl⟩ := revises
    obtain ⟨variants, traffic⟩ := Changes.apply_checked checked
      (Lifecycle.checkVariants_eq_ok.mpr ⟨formed.split, formed.labelled⟩)
      (Lifecycle.checkTraffic_eq_ok.mpr formed.traffic)
    obtain ⟨split, labelled⟩ := Lifecycle.checkVariants_eq_ok.mp variants
    exact ⟨timely, formed.named, formed.short, split, labelled,
      Lifecycle.checkTraffic_eq_ok.mp traffic, formed.unpaused⟩
  | start id =>
    obtain ⟨-, -, t, now, rfl⟩ := revises
    exact ⟨timely, formed.named, formed.short, formed.split, formed.labelled, formed.traffic, nofun⟩
  | stop id =>
    obtain ⟨-, -, t, now, rfl⟩ := revises
    exact ⟨timely, formed.named, formed.short, formed.split, formed.labelled, formed.traffic, nofun⟩
  | _ => exact revises.elim

end Service

def Move.ServedWith (settings : Settings) : Move ι → Prop
  | .begin _ job => ∃ service, job = .service settings service
  | .proceed _ _ => True
  | .undo _ => False

namespace System

variable {settings : Settings} {w w' : System ι}

structure WellFormed (settings : Settings) (w : System ι) : Prop where
  orderly : Orderly w
  journaled : w.Journaled
  served : ∀ i task, (w.clients i).task = some task → ∃ service, task.job = .service settings service
  stored : ∀ id e, w.store.experimentById id = some e → e.WellFormed settings
  read : ∀ i task, (w.clients i).task = some task → ∀ id e, task.exchanges.Read id e →
    e.WellFormed settings
  kept : ∀ i e, .restoreExperiment e ∈ w.pending i → e.WellFormed settings

theorem wellFormed_start : WellFormed settings (start {} fun _ : ι => {}) where
  orderly := orderly_start _ _
  journaled := journaled_start _
  served i task busy := by cases busy
  stored id e stored := by
    have nothing : ({} : Store).experimentById id = none := rfl
    rw [start, nothing] at stored
    cases stored
  read i task busy := by cases busy
  kept i e m := by cases m

theorem WellFormed.arrived {e : Experiment} (formed : WellFormed settings w)
    (arrival : Arrival w w' e) : e.WellFormed settings := by
  cases arrival with
  | stayed id stored => exact formed.stored id e stored
  | restored i kept => exact formed.kept i e kept
  | created i task next busy rest trace =>
    obtain ⟨service, job⟩ := formed.served i task busy
    have meets := (formed.orderly.faithful busy).meets
    rw [rest, job, Program.meets_ask] at meets
    exact Service.Creates.wellFormed meets.1
  | revised i task expected next busy rest =>
    obtain ⟨service, job⟩ := formed.served i task busy
    have meets := (formed.orderly.faithful busy).meets
    rw [rest, job, Program.meets_ask] at meets
    obtain ⟨id, old, -, read, revises⟩ := meets.1
    exact revises.wellFormed (formed.read i task busy id old read)

variable [DecidableEq ι] {move : Move ι}

theorem WellFormed.step (formed : WellFormed settings w) (served : move.ServedWith settings) :
    WellFormed settings (w.step move) := by
  have own : move.Own := by
    cases move with
    | undo u => exact served
    | _ => trivial
  have shift := shift_step formed.journaled own
  constructor
  case orderly => exact formed.orderly.step move
  case journaled => exact journaled_step formed.journaled
  case served =>
    apply job_step (fun job => ∃ service, job = .service settings service) formed.served
    rintro i job rfl
    exact served
  case stored =>
    intro id e stored
    exact formed.arrived (shift.arrival stored)
  case read =>
    intro i task busy id e read
    obtain ⟨i, task, busy, read⟩ | stored := read_step busy read
    · exact formed.read i task busy id e read
    · exact formed.stored id e stored
  case kept =>
    intro i e m
    obtain kept | ⟨id, stored⟩ := shift.mem_restores m
    · exact formed.kept i e kept
    · exact formed.stored id e stored

/-- Whatever services with the same settings interleave, and whatever breaks down or is taken back,
every experiment is well formed. -/
theorem run_experiments_wellFormed (settings : Settings) (moves : List (Move ι)) (id : Uuid)
    (e : Experiment) (served : ∀ move ∈ moves, move.ServedWith settings) :
    (({} : System ι).run moves).store.experimentById id = some e → e.WellFormed settings := by
  intro stored
  have formed : WellFormed settings (({} : System ι).run moves) := by
    apply run_keeps (WellFormed settings)
    · intro w move m formed
      exact formed.step (served move m)
    · exact wellFormed_start
  exact formed.stored id e stored

theorem run_experiments_wellFormed_taken_back :
    let draft : Draft :=
      { name := "colour"
        variants := Std.ExtTreeMap.ofList [("red", Json.null), ("blue", Json.null)] }
    let serve (i : Bool) (service : Service) : Move Bool := .begin i (.service {} service)
    let go (i : Bool) (n : Nat) : List (Move Bool) := List.replicate n (.proceed i { id := ⟨1⟩ })
    let moves := serve true (.create draft ⟨2⟩) :: go true 7 ++
      serve false (.update ⟨1⟩ { traffic := some 30 }) :: go false 1 ++
        serve true (.start ⟨1⟩) :: go true 4 ++
          .proceed true { event := some (.reported "observer down") } :: go true 4 ++ go false 5
    let final := ({} : System Bool).run moves
    ∃ e, final.store.experimentById ⟨1⟩ = some e ∧ e.status = .draft ∧ e.traffic = 30 ∧
      e.WellFormed {} := by
  intro draft serve go moves final
  have served : ∀ move ∈ moves, move.ServedWith {} := by
    simp [moves, serve, go, Move.ServedWith]
  have reached : (final.store.experimentById ⟨1⟩).map (fun e => (e.status, e.traffic)) =
      some (.draft, 30) := by decide +kernel
  obtain ⟨e, stored, same⟩ := Option.map_eq_some_iff.mp reached
  obtain ⟨draft, traffic⟩ := Prod.mk.inj same
  exact ⟨e, stored, draft, traffic, run_experiments_wellFormed {} moves ⟨1⟩ e served stored⟩

end System

end SplitTest
