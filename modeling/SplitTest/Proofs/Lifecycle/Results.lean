import SplitTest.Proofs.Lifecycle.Smooth
import SplitTest.Proofs.Stats.Comparison
import SplitTest.Proofs.Store.Aggregation

namespace SplitTest

variable {settings : Settings} {s : Store} {experiment : Uuid} {metric : String}
  {stats : List VariantStats} {confidence : Option Float} {reductions : Stats.Reductions}
  {e : Experiment} {w : Workplace}

theorem Store.enough_subjects_iff
    (names : stats.map (·.name) = (Std.ExtTreeSet.ofList (s.variantsMet experiment metric)).toList)
    (tells : ∀ x ∈ stats, s.Tells experiment metric reductions x) (least : Nat) :
    (stats.length = 2 ∧ ∀ x ∈ stats, least ≤ x.subjects) ↔
      (s.variantsMet experiment metric).dedup.length = 2 ∧
        ∀ variant ∈ s.variantsMet experiment metric,
          least ≤ ((s.measuredIn experiment metric variant).map Prod.fst).dedup.length := by
  have length : stats.length = (s.variantsMet experiment metric).dedup.length := by
    rw [← toList_ofList_perm.length_eq, ← names, List.length_map]
  refine and_congr (by rw [length]) ?_
  calc (∀ x ∈ stats, least ≤ x.subjects)
      ↔ ∀ x ∈ stats,
          least ≤ ((s.measuredIn experiment metric x.name).map Prod.fst).dedup.length :=
        forall₂_congr fun x m => by rw [(tells x m).subjects]
    _ ↔ ∀ variant ∈ stats.map (·.name),
          least ≤ ((s.measuredIn experiment metric variant).map Prod.fst).dedup.length :=
        by rw [List.forall_mem_map]
    _ ↔ _ := by simp only [names, mem_toList_ofList]

theorem Lifecycle.checkConfidence_eq_ok {level : Float} :
    checkConfidence settings level = .ok () ↔
      settings.minConfidence ≤ level ∧ level ≤ settings.maxConfidence := by
  unfold checkConfidence
  split
  case isTrue inside => exact iff_of_true rfl inside
  case isFalse outside => exact iff_of_false nofun outside

theorem Lifecycle.results_gives {drawn : Uuid → Prop} (smooth : w.Smooth drawn s)
    (stored : s.experimentById experiment = some e)
    (told : s.metricStats experiment metric reductions = .ok stats)
    (ordered : (stats.map (·.name)).Pairwise fun a b => compare a b = .lt)
    (observed : ∀ x ∈ stats, x.observations ≠ 0)
    (checked : checkConfidence settings (confidence.getD settings.defaultConfidence) = .ok ()) :
    ∃ results w',
      (Lifecycle.results settings experiment metric confidence reductions).run Workplace.reply w =
        (.ok (.ok results), w') ∧
      w'.store = s ∧
        results.Compares settings stats (confidence.getD settings.defaultConfidence) := by
  obtain ⟨results, made, compares⟩ := Results.exists_ofStats settings e metric
    (confidence.getD settings.defaultConfidence) ordered observed
  apply Transaction.run_gives fun (results : Results) s' => s' = s ∧
    results.Compares settings stats (confidence.getD settings.defaultConfidence)
  apply Operation.Gives.bind
  apply Operation.Gives.ofOutcome checked
  apply Operation.Gives.bind
  apply load_gives smooth stored
  intro w smooth
  apply Operation.Gives.bind
  have told : (Call.metricStats experiment metric reductions).perform s = (.ok stats, s) := by
    rw [Call.perform, told]
    rfl
  apply Operation.Gives.call smooth told
  intro w smooth
  apply Operation.Gives.bind
  apply Operation.Gives.ofExcept made
  apply Operation.Gives.bind
  apply Operation.Gives.emit smooth
  intro w smooth
  apply Operation.Gives.pure
  exact ⟨smooth.store, compares⟩

/-- Results of a stored experiment are there for each confidence inside the bounds, and nothing is
written for them. Two variants are compared if there are no others with observations of subjects
assigned to them, and each has enough such subjects; the test counts all their observations. -/
theorem results_compare (settings : Settings) (experiment : Uuid) (metric : String)
    (confidence : Option Float) (reductions : Stats.Reductions) (w : Workplace) (e : Experiment)
    (fair : ∀ n, (w.chances n).Fair) (stored : w.store.experimentById experiment = some e)
    (inside : settings.minConfidence ≤ confidence.getD settings.defaultConfidence ∧
      confidence.getD settings.defaultConfidence ≤ settings.maxConfidence) :
    ∃ results stats w',
      (Lifecycle.results settings experiment metric confidence reductions).run Workplace.reply w =
        (.ok (.ok results), w') ∧
      w'.store = w.store ∧
      w.store.metricStats experiment metric reductions = .ok stats ∧
      results.variants.toList = stats.map (fun x => (x.name, x)) ∧
      (results.pValue.isSome = true ↔
        (w.store.variantsMet experiment metric).dedup.length = 2 ∧
          ∀ variant ∈ w.store.variantsMet experiment metric, settings.minSubjects.toNat ≤
            ((w.store.measuredIn experiment metric variant).map Prod.fst).dedup.length) ∧
      results.t.isSome = results.pValue.isSome ∧
      (∀ p, results.pValue = some p → ∃ a b test, stats = [a, b] ∧
        Stats.welch ⟨a.mean, a.stddev, (w.store.measuredIn experiment metric a.name).length⟩
          ⟨b.mean, b.stddev, (w.store.measuredIn experiment metric b.name).length⟩
          settings.pValueFloor = .ok test ∧
        test.pValue = p ∧ results.t = some test.t) ∧
      (results.significant = true ↔ ∃ p, results.pValue = some p ∧
        p < 1.0 - confidence.getD settings.defaultConfidence) := by
  obtain ⟨stats, told, names, tells⟩ := w.store.exists_metricStats experiment metric reductions
  have ordered : (stats.map (·.name)).Pairwise fun a b => compare a b = .lt := by
    rw [names]
    exact Std.ExtTreeSet.ordered_toList
  have observed (x : VariantStats) (m : x ∈ stats) : x.observations ≠ 0 := by
    have some := (tells x m).measured
    have all := (tells x m).repeated
    omega
  have smooth : w.Smooth (fun _ => True) w.store := ⟨rfl, fair, fun _ => trivial⟩
  obtain ⟨results, w', ran, same, compares⟩ := Lifecycle.results_gives smooth stored told ordered
    observed (Lifecycle.checkConfidence_eq_ok.mpr inside)
  refine ⟨results, stats, w', ran, same, told, compares.variants, ?_, compares.t, ?_,
    compares.significant⟩
  · exact compares.compared.trans (Store.enough_subjects_iff names tells _)
  · intro p there
    obtain ⟨a, b, test, rfl, tested, shown⟩ := compares.tested p there
    refine ⟨a, b, test, rfl, ?_, shown⟩
    rw [← (tells a (by simp)).observations, ← (tells b (by simp)).observations]
    exact tested

theorem results_compare_two :
    let e : Experiment :=
      { id := ⟨1⟩, organization := ⟨9⟩, name := "colour", status := .completed }
    let bind (subject : Uuid) (variant : String) : Call :=
      .createAssignment { experiment := ⟨1⟩, subject, variant }
    let record (subject : Uuid) (value : Float) : Call :=
      .recordMetric { experiment := ⟨1⟩, subject, metric := "clicks", value }
    let s : Store := [.createExperiment e, bind ⟨3⟩ "blue", bind ⟨4⟩ "blue", bind ⟨5⟩ "green",
      bind ⟨6⟩ "green", record ⟨3⟩ 1, record ⟨4⟩ 2, record ⟨3⟩ 4, record ⟨5⟩ 8, record ⟨6⟩ 9,
      record ⟨7⟩ 3].foldl (fun s c => (c.perform s).2) {}
    let w : Workplace := { store := s, unit := {}, chances := fun _ => {} }
    let settings : Settings := {}
    settings.flaw? = none ∧ s.experimentById ⟨1⟩ = some e ∧
      (settings.minConfidence ≤ 0.9 ∧ 0.9 ≤ settings.maxConfidence) ∧
      ∃ results w',
        (Lifecycle.results settings ⟨1⟩ "clicks" (some 0.9) .inOrder).run Workplace.reply w =
          (.ok (.ok results), w') ∧
        w'.store = s ∧ results.pValue.isSome = true ∧ results.t.isSome = true := by
  intro e bind record s w settings
  have stored : s.experimentById ⟨1⟩ = some e := rfl
  have inside : settings.minConfidence ≤ 0.9 ∧ 0.9 ≤ settings.maxConfidence := by decide +kernel
  obtain ⟨results, stats, w', ran, same, -, -, compared, t, -⟩ :=
    results_compare settings ⟨1⟩ "clicks" (some 0.9) .inOrder w e (fun _ => ⟨rfl, rfl, rfl⟩) stored
      inside
  have there : results.pValue.isSome = true := compared.mpr (by decide +kernel)
  exact ⟨by decide +kernel, stored, inside, results, w', ran, same, there, t.trans there⟩

end SplitTest
