import SplitTest.Proofs.Table
import SplitTest.Stats

namespace SplitTest

theorem Stats.exists_welch {a b : Sample} (first : a.size ≠ 0) (second : b.size ≠ 0)
    (floor : Float) : ∃ test, welch a b floor = .ok test := by
  unfold welch
  rw [if_neg (not_or.mpr ⟨first, second⟩)]
  split
  · split <;> exact ⟨_, rfl⟩
  · dsimp only
    split <;> exact ⟨_, rfl⟩

namespace Results

variable {settings : Settings} {variants : Std.ExtTreeMap String VariantStats} {e : Experiment}
  {metric : String} {stats : List VariantStats} {confidence : Float} {a b : VariantStats}

theorem contenders?_eq_some_iff : contenders? settings variants = some (a, b) ↔
    variants.values = [a, b] ∧ settings.minSubjects.toNat ≤ a.subjects ∧
      settings.minSubjects.toNat ≤ b.subjects := by
  unfold contenders?
  split
  case h_1 x y both =>
    rw [both, Option.ite_none_right_eq_some, Option.some.injEq, Prod.mk.injEq, List.cons.injEq,
      List.cons.injEq]
    constructor
    · rintro ⟨enough, rfl, rfl⟩
      exact ⟨⟨rfl, rfl, rfl⟩, enough⟩
    · rintro ⟨⟨rfl, rfl, -⟩, enough⟩
      exact ⟨enough, rfl, rfl⟩
  case h_2 others =>
    apply iff_of_false nofun
    rintro ⟨both, -⟩
    exact others a b both

theorem isSome_contenders? : (contenders? settings variants).isSome = true ↔
    variants.values.length = 2 ∧
      ∀ x ∈ variants.values, settings.minSubjects.toNat ≤ x.subjects := by
  rw [Option.isSome_iff_exists]
  constructor
  · rintro ⟨⟨a, b⟩, found⟩
    obtain ⟨both, enough, enough'⟩ := contenders?_eq_some_iff.mp found
    rw [both]
    exact ⟨rfl, by simp [enough, enough']⟩
  · rintro ⟨two, enough⟩
    obtain ⟨a, b, both⟩ := List.length_eq_two.mp two
    rw [both] at enough
    exact ⟨(a, b), contenders?_eq_some_iff.mpr ⟨both, enough a (by simp), enough b (by simp)⟩⟩

structure Compares (settings : Settings) (stats : List VariantStats) (confidence : Float)
    (results : Results) : Prop where
  variants : results.variants.toList = stats.map fun x => (x.name, x)
  compared : results.pValue.isSome = true ↔
    stats.length = 2 ∧ ∀ x ∈ stats, settings.minSubjects.toNat ≤ x.subjects
  t : results.t.isSome = results.pValue.isSome
  tested : ∀ p, results.pValue = some p → ∃ a b test, stats = [a, b] ∧
    Stats.welch a.sample b.sample settings.pValueFloor = .ok test ∧ test.pValue = p ∧
      results.t = some test.t
  significant : results.significant = true ↔ ∃ p, results.pValue = some p ∧ p < 1.0 - confidence

theorem exists_ofStats (settings : Settings) (e : Experiment) (metric : String)
    (confidence : Float)
    (ordered : (stats.map (·.name)).Pairwise fun a b => compare a b = .lt)
    (observed : ∀ x ∈ stats, x.observations ≠ 0) :
    ∃ results, ofStats settings e metric stats confidence = .ok results ∧
      results.Compares settings stats confidence := by
  let variants := Std.ExtTreeMap.ofList (stats.map fun x => (x.name, x))
  have entries : variants.toList = stats.map fun x => (x.name, x) := by
    apply toList_ofList
    rw [List.pairwise_map] at ordered ⊢
    exact ordered
  have values : variants.values = stats := by
    rw [values_eq_map_snd, entries, List.map_map]
    exact List.map_id stats
  have both : (contenders? settings variants).isSome = true ↔ stats.length = 2 ∧
      ∀ x ∈ stats, settings.minSubjects.toNat ≤ x.subjects := by
    rw [isSome_contenders?, values]
  simp only [ofStats]
  cases found : contenders? settings variants with
  | none =>
    rw [found] at both
    refine ⟨_, rfl, entries, both, rfl, nofun, ?_⟩
    exact iff_of_false nofun nofun
  | some pair =>
    obtain ⟨a, b⟩ := pair
    obtain ⟨pair, -⟩ := contenders?_eq_some_iff.mp found
    rw [values] at pair
    subst pair
    obtain ⟨test, tested⟩ := Stats.exists_welch (a := a.sample) (b := b.sample)
      (observed a (by simp)) (observed b (by simp)) settings.pValueFloor
    rw [found] at both
    simp only [tested]
    refine ⟨_, rfl, entries, both, rfl, ?_, ?_⟩
    · rintro p ⟨⟩
      exact ⟨a, b, test, rfl, tested, rfl, rfl⟩
    · rw [decide_eq_true_iff]
      exact ⟨fun below => ⟨_, rfl, below⟩, by rintro ⟨p, ⟨⟩, below⟩; exact below⟩

end Results

end SplitTest
