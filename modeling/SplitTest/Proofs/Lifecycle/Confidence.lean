import SplitTest.Proofs.Lifecycle.Results
import SplitTest.Proofs.Numbers
import SplitTest.Proofs.Program.Meets
import SplitTest.Proofs.Service.Obeying

namespace SplitTest

variable {settings : Settings} {experiment : Uuid} {metric : String} {confidence : Option Float}
  {reductions : Stats.Reductions}

namespace Settings

theorem bounds_of_sound (sound : settings.flaw? = none) :
    0 < settings.minConfidence ∧ settings.minConfidence ≤ settings.maxConfidence ∧
      settings.maxConfidence < 1 := by
  unfold flaw? at sound
  split at sound
  case isTrue => cases sound
  case isFalse bounds => exact Decidable.not_not.mp bounds

theorem default_of_sound (sound : settings.flaw? = none) :
    ¬ settings.defaultConfidence < settings.minConfidence ∧
      ¬ settings.maxConfidence < settings.defaultConfidence := by
  unfold flaw? at sound
  split at sound
  case isTrue => cases sound
  case isFalse =>
    split at sound
    case isTrue => cases sound
    case isFalse inside => exact not_or.mp inside

theorem default_inside_iff (sound : settings.flaw? = none) :
    settings.minConfidence ≤ settings.defaultConfidence ∧
        settings.defaultConfidence ≤ settings.maxConfidence ↔
      settings.defaultConfidence.isNaN = false := by
  obtain ⟨-, between, -⟩ := bounds_of_sound sound
  obtain ⟨low, high⟩ := FloatOrder.isNaN_of_le between
  obtain ⟨above, below⟩ := default_of_sound sound
  constructor
  · exact fun inside => (FloatOrder.isNaN_of_le inside.1).2
  · exact fun number =>
      ⟨(FloatOrder.not_lt_iff low number).mp above, (FloatOrder.not_lt_iff number high).mp below⟩

end Settings

def Admits (_ : History) (e : Error) : Prop := e.kind ≠ .validation

namespace Lifecycle

theorem results_meets {h : History}
    (checked : checkConfidence settings (confidence.getD settings.defaultConfidence) = .ok ()) :
    (results settings experiment metric confidence reductions).Meets (fun _ _ => True)
      (Transaction.Closes "compute_results" (fun _ => True) Admits fun _ _ => True) h := by
  refine Transaction.run_obeys (fun _ _ _ => trivial) (fun _ _ other => other) ?_
  refine Operation.obeys_ofOutcome (by rw [checked]; nofun) fun _ _ => ?_
  refine load_obeys trivial (fun _ => nofun) fun e => Operation.obeys_bind trivial fun stats => ?_
  refine Operation.obeys_ofExcept fun results _ => ?_
  exact Operation.obeys_bind trivial fun _ => trivial

variable {σ : Type} {reply : Program.Surroundings σ} {state : σ}

theorem results_not_validation
    (checked : checkConfidence settings (confidence.getD settings.defaultConfidence) = .ok ())
    {e : Error}
    (outcome : ((results settings experiment metric confidence reductions).run reply state).1 =
      .ok (.error e)) : e.kind ≠ .validation := by
  obtain ⟨h, -, closes⟩ := Program.Meets.run (fun _ (_ : σ) => True) (fun _ _ _ _ _ => trivial)
    (results_meets (h := []) checked) trivial
  rw [outcome] at closes
  rcases closes with kind | ⟨-, fault, rfl⟩
  · exact kind
  · nofun

theorem exists_checkConfidence_eq_error {level : Float}
    (outside : ¬ (settings.minConfidence ≤ level ∧ level ≤ settings.maxConfidence)) :
    ∃ e, checkConfidence settings level = .error e ∧ e.kind = .validation :=
  ⟨_, if_neg outside, rfl⟩

theorem results_refused (experiment : Uuid) (metric : String) (reductions : Stats.Reductions)
    {e : Error} {state' : σ}
    (refused : checkConfidence settings settings.defaultConfidence = .error e)
    (rolled : reply .rollback state = (.ok (), state')) :
    (results settings experiment metric none reductions).run reply state =
      (.ok (.error e), state') := by
  refine Transaction.run_of_error ?_ rolled
  simp only [Option.getD_none, refused]
  rfl

end Lifecycle

/-- Of sound settings the default lies inside the bounds if and only if it is a number. Then no
results without a confidence are turned down as invalid, in whatever surroundings; and if it is
none, all of them are. -/
theorem default_confidence_usable (settings : Settings) (sound : settings.flaw? = none) :
    (settings.minConfidence ≤ settings.defaultConfidence ∧
        settings.defaultConfidence ≤ settings.maxConfidence ↔
      settings.defaultConfidence.isNaN = false) ∧
    ∀ (σ : Type) (reply : Program.Surroundings σ) (state : σ) (experiment : Uuid)
      (metric : String) (reductions : Stats.Reductions),
      (settings.defaultConfidence.isNaN = false → ∀ e,
        ((Lifecycle.results settings experiment metric none reductions).run reply state).1 =
          .ok (.error e) → e.kind ≠ .validation) ∧
      (settings.defaultConfidence.isNaN = true → (reply .rollback state).1 = .ok () → ∃ e,
        ((Lifecycle.results settings experiment metric none reductions).run reply state).1 =
          .ok (.error e) ∧ e.kind = .validation) := by
  have inside := Settings.default_inside_iff sound
  refine ⟨inside, fun σ reply state experiment metric reductions => ⟨?_, ?_⟩⟩
  · intro number e answered
    have checked : Lifecycle.checkConfidence settings (Option.getD none _) = .ok () :=
      Lifecycle.checkConfidence_eq_ok.mpr (inside.mpr number)
    exact Lifecycle.results_not_validation checked answered
  · intro unordered rolled
    have outside : ¬ (settings.minConfidence ≤ settings.defaultConfidence ∧
        settings.defaultConfidence ≤ settings.maxConfidence) := by
      rw [inside, unordered]
      nofun
    obtain ⟨e, refused, kind⟩ := Lifecycle.exists_checkConfidence_eq_error outside
    have ran := Lifecycle.results_refused experiment metric reductions refused (Prod.ext rolled rfl)
    exact ⟨e, congrArg Prod.fst ran, kind⟩

theorem default_confidence_usable_kinds :
    let unordered : Settings := { defaultConfidence := 0.0 / 0.0 }
    let w : Workplace := { store := {}, unit := {}, chances := fun _ => {} }
    ({} : Settings).flaw? = none ∧ ({} : Settings).defaultConfidence.isNaN = false ∧
      (∀ e, ((Lifecycle.results {} ⟨1⟩ "clicks" none .inOrder).run Workplace.reply w).1 =
        .ok (.error e) → e.kind ≠ .validation) ∧
      unordered.flaw? = none ∧ unordered.defaultConfidence.isNaN = true ∧
      ∃ e, ((Lifecycle.results unordered ⟨1⟩ "clicks" none .inOrder).run Workplace.reply w).1 =
        .ok (.error e) ∧ e.kind = .validation := by
  intro unordered w
  have sound : ({} : Settings).flaw? = none := by decide +kernel
  have number : ({} : Settings).defaultConfidence.isNaN = false := by decide +kernel
  have sound' : unordered.flaw? = none := by decide +kernel
  have unordered' : unordered.defaultConfidence.isNaN = true := by decide +kernel
  obtain ⟨-, usable⟩ := default_confidence_usable {} sound
  obtain ⟨-, unusable⟩ := default_confidence_usable unordered sound'
  exact ⟨sound, number, (usable _ Workplace.reply w ⟨1⟩ "clicks" .inOrder).1 number, sound', unordered',
    (unusable _ Workplace.reply w ⟨1⟩ "clicks" .inOrder).2 unordered' rfl⟩

/-- A default that is no number passes as sound and lies inside no bounds. Results of a stored
experiment are turned down for it. -/
theorem unordered_confidence_is_refused :
    let settings : Settings := { defaultConfidence := 0.0 / 0.0 }
    let e : Experiment := { id := ⟨1⟩, organization := ⟨2⟩, name := "colour" }
    let w : Workplace :=
      { store := (({} : Store).createExperiment e).2, unit := {}, chances := fun _ => {} }
    settings.flaw? = none ∧
      ¬ (settings.minConfidence ≤ settings.defaultConfidence ∧
        settings.defaultConfidence ≤ settings.maxConfidence) ∧
      w.store.experimentById ⟨1⟩ = some e ∧
      ∃ cause, ((Lifecycle.results settings ⟨1⟩ "clicks" none .inOrder).run Workplace.reply w).1 =
        .ok (.error cause) ∧ cause.kind = .validation := by
  intro settings e w
  have outside : ¬ (settings.minConfidence ≤ settings.defaultConfidence ∧
      settings.defaultConfidence ≤ settings.maxConfidence) := by decide +kernel
  obtain ⟨cause, refused, kind⟩ := Lifecycle.exists_checkConfidence_eq_error outside
  have rolled : Workplace.reply .rollback w = (.ok (), _) := rfl
  have ran := Lifecycle.results_refused ⟨1⟩ "clicks" .inOrder refused rolled
  exact ⟨by decide +kernel, outside, rfl, cause, congrArg Prod.fst ran, kind⟩

end SplitTest
