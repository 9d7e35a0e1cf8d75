import SplitTest.Proofs.Numbers
import SplitTest.Stats

/-!
What statistics rely on of the reductions that they are made with. Floating-point addition is not
associative, so a mean is known only up to the order in which its values were added.
-/

namespace SplitTest

namespace Stats

/-- A number that the values may come to, added up two by two in some order. -/
inductive Adds : List Float → Float → Prop
  | single (x : Float) : Adds [x] x
  | join {l m : List Float} {x y : Float} (left : Adds l x) (right : Adds m y) :
      Adds (l ++ m) (x + y)
  | perm {l m : List Float} {x : Float} (same : l.Perm m) (adds : Adds l x) : Adds m x

def distances (center : Float) (values : List Float) : List Float :=
  values.map fun x => (x - center) * (x - center)

def Extreme (within : Float → Float → Prop) (values : List Float) (best : Float) : Prop :=
  best ∈ values ∧ ∀ x ∈ values, within best x

/-- Sums are of all coefficients, and an extreme is one of them if all are numbers. -/
structure Reductions.Lawful (reductions : Reductions) : Prop where
  mean {values : List Float} (there : values ≠ []) :
    ∃ total, Adds values total ∧ reductions.mean values = total / Float.ofNat values.length
  squares {values : List Float} (center : Float) (there : values ≠ []) :
    Adds (distances center values) (reductions.squares center values)
  least {values : List Float} (there : values ≠ []) (numbers : ∀ x ∈ values, x.isNaN = false) :
    Extreme (· ≤ ·) values (reductions.least values)
  greatest {values : List Float} (there : values ≠ []) (numbers : ∀ x ∈ values, x.isNaN = false) :
    Extreme (· ≥ ·) values (reductions.greatest values)

structure Describes (values : List Float) (x : VariantStats) : Prop where
  mean : ∃ total, Adds values total ∧ x.mean = total / Float.ofNat values.length
  alone : values.length = 1 → x.stddev = 0
  spread : 1 < values.length → ∃ total, Adds (distances x.mean values) total ∧
    x.stddev = (total / Float.ofNat (values.length - 1)).sqrt
  least : (∀ v ∈ values, v.isNaN = false) → Extreme (· ≤ ·) values x.min
  greatest : (∀ v ∈ values, v.isNaN = false) → Extreme (· ≥ ·) values x.max

section Summarize

variable {name : String} {values : List Float} {subjects : Nat} {reductions : Reductions}
  {x : VariantStats}

theorem exists_summarize (there : values ≠ []) :
    ∃ x, summarize name values subjects reductions = .ok x := by
  rw [summarize, if_neg (mt List.isEmpty_iff.mp there)]
  exact ⟨_, rfl⟩

theorem of_summarize (done : summarize name values subjects reductions = .ok x) :
    values ≠ [] ∧ x.name = name ∧ x.subjects = subjects ∧ x.observations = values.length := by
  unfold summarize at done
  split at done
  case isTrue => cases done
  case isFalse there =>
    cases done
    exact ⟨mt List.isEmpty_iff.mpr there, rfl, rfl, rfl⟩

theorem summarize_describes (lawful : reductions.Lawful)
    (done : summarize name values subjects reductions = .ok x) : Describes values x := by
  obtain ⟨there, -⟩ := of_summarize done
  rw [summarize, if_neg (mt List.isEmpty_iff.mp there)] at done
  cases done
  constructor
  case mean => exact lawful.mean there
  case alone =>
    intro one
    exact if_pos (Nat.le_of_eq one)
  case spread =>
    intro several
    refine ⟨_, lawful.squares _ there, ?_⟩
    exact if_neg (Nat.not_le_of_gt several)
  case least => exact lawful.least there
  case greatest => exact lawful.greatest there

end Summarize

namespace Reductions

theorem adds_foldl {l rest : List Float} {x : Float} (adds : Adds l x) :
    Adds (l ++ rest) (rest.foldl (· + ·) x) := by
  induction rest generalizing l x with
  | nil => rwa [List.append_nil]
  | cons y rest ih =>
    have next := ih (adds.join (.single y))
    rwa [List.append_assoc] at next

theorem adds_total {values : List Float} (there : values ≠ []) : Adds values (total values) := by
  obtain ⟨first, rest, rfl⟩ := List.exists_cons_of_ne_nil there
  exact adds_foldl (.single first)

section Extreme

variable (within : Float → Float → Prop) (better : Float → Float → Bool)
  (refl : ∀ {x : Float}, x.isNaN = false → within x x)
  (trans : ∀ {x y z : Float}, within x y → within y z → within x z)
  (apart : ∀ {x y : Float}, x.isNaN = false → y.isNaN = false →
    if better x y = true then within x y else within y x)
include refl apart

theorem within_ite {x y : Float} (hx : x.isNaN = false) (hy : y.isNaN = false) :
    (if better x y then x else y).isNaN = false ∧
      within (if better x y then x else y) x ∧ within (if better x y then x else y) y := by
  have ordered := apart hx hy
  split at ordered
  case isTrue first =>
    rw [if_pos first]
    exact ⟨hx, refl hx, ordered⟩
  case isFalse second =>
    rw [if_neg second]
    exact ⟨hy, ordered, refl hy⟩

include trans

theorem foldl_extreme {first : Float} {rest : List Float}
    (numbers : ∀ x ∈ first :: rest, x.isNaN = false) : Extreme within (first :: rest)
      (rest.foldl (fun best x => if better x best then x else best) first) := by
  induction rest generalizing first with
  | nil =>
    have own := refl (numbers first List.mem_cons_self)
    exact ⟨List.mem_cons_self, List.forall_mem_singleton.mpr own⟩
  | cons x rest ih =>
    obtain ⟨first_number, x_number, rest_numbers⟩ : first.isNaN = false ∧ x.isNaN = false ∧
        ∀ y ∈ rest, y.isNaN = false := by
      simpa only [List.forall_mem_cons] using numbers
    obtain ⟨number, below_x, below_first⟩ :=
      within_ite within better refl apart x_number first_number
    have kept : (if better x first then x else first) ∈ first :: x :: rest := by
      split <;> simp
    rw [List.foldl_cons]
    generalize (if better x first then x else first) = next at number below_x below_first kept
    obtain ⟨met, best⟩ := ih (List.forall_mem_cons.mpr ⟨number, rest_numbers⟩)
    obtain ⟨best_next, best_rest⟩ := List.forall_mem_cons.mp best
    constructor
    case left =>
      rcases List.mem_cons.mp met with same | later
      · rwa [same]
      · exact List.mem_cons_of_mem _ (List.mem_cons_of_mem _ later)
    case right =>
      simp only [List.forall_mem_cons]
      exact ⟨trans best_next below_first, trans best_next below_x, best_rest⟩

theorem extreme_spec {values : List Float} (there : values ≠ [])
    (numbers : ∀ x ∈ values, x.isNaN = false) : Extreme within values (extreme better values) := by
  obtain ⟨first, rest, rfl⟩ := List.exists_cons_of_ne_nil there
  exact foldl_extreme within better refl trans apart numbers

end Extreme

theorem inOrder_lawful : inOrder.Lawful where
  mean {values} there := ⟨total values, adds_total there, by rw [inOrder]⟩
  squares center there := by
    rw [inOrder]
    exact adds_total (mt List.map_eq_nil_iff.mp there)
  least there numbers := by
    rw [inOrder]
    exact extreme_spec (· ≤ ·) _ FloatOrder.le_refl FloatOrder.le_trans
      (fun hx hy => FloatOrder.le_or_ge hx hy) there numbers
  greatest there numbers := by
    rw [inOrder]
    exact extreme_spec (· ≥ ·) _ FloatOrder.le_refl
      (fun first second => FloatOrder.le_trans second first)
      (fun hx hy => FloatOrder.le_or_ge hy hx) there numbers

end Reductions

end Stats

end SplitTest
