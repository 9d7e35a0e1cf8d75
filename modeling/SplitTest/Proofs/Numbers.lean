import Mathlib.Data.Ordering.Basic
import Mathlib.Data.UInt

namespace SplitTest

theorem toInt_toInt32_of_toNat_lt {n : UInt64} (small : n.toNat < 2 ^ 31) :
    n.toUInt32.toInt32.toInt = n.toNat := by
  have word : n.toUInt32.toInt32.toInt = (n.toUInt32.toNat : Int).bmod (2 ^ 32) :=
    BitVec.toInt_eq_toNat_bmod _
  rw [word, UInt64.toNat_toUInt32, Nat.mod_eq_of_lt (by omega),
    Int.bmod_eq_of_le (by omega) (by omega)]

theorem toInt_toInt32_of_le {n : Int64} (least : -2 ^ 31 ≤ n.toInt) (most : n.toInt < 2 ^ 31) :
    n.toInt32.toInt = n.toInt := by
  rw [Int64.toInt_toInt32, Int.bmod_eq_of_le (by omega) (by omega)]

theorem toNat_toUInt64_of_le {n : Int64} (nonnegative : 0 ≤ n.toInt) :
    (n.toUInt64.toNat : Int) = n.toInt := by
  have positive : n.toBitVec.msb = false := by
    rw [BitVec.msb_eq_toInt, decide_eq_false_iff_not]
    exact Int.not_lt.mpr nonnegative
  exact (BitVec.toInt_eq_toNat_of_msb positive).symm

namespace FloatOrder

open Float.Model

def key : UnpackedFloat → Int × Int × Int
  | .infinity .negative => (-2, 0, 0)
  | .finite .negative m e _ => (-1, -e, -m)
  | .notANumber | .zero _ => (0, 0, 0)
  | .finite .positive m e _ => (1, e, m)
  | .infinity .positive => (2, 0, 0)

def compareKeys : Int × Int × Int → Int × Int × Int → Ordering :=
  compareLex (compareOn Prod.fst)
    (compareLex (compareOn fun k => k.2.fst) (compareOn fun k => k.2.snd))

instance : Std.TransCmp compareKeys := by
  unfold compareKeys
  infer_instance

theorem compare_neg_neg (i j : Int) : compare (-i) (-j) = (compare i j).swap := by
  rw [← Std.OrientedCmp.eq_swap]
  simp only [compare, compareOfLessAndEq, Int.neg_lt_neg_iff, Int.neg_inj, eq_comm]

theorem compare_natCast (m n : Nat) : compare (m : Int) (n : Int) = compare m n := by
  simp only [compare, compareOfLessAndEq, Int.ofNat_lt, Int.natCast_inj]

section Unpacked

variable {a b : UnpackedFloat}

theorem compare_eq_some (ha : a.isNaN = false) (hb : b.isNaN = false) :
    a.compare b = some (compareKeys (key a) (key b)) := by
  cases a with
  | notANumber => cases ha
  | infinity s =>
    cases b with
    | notANumber => cases hb
    | infinity t | finite t => cases s <;> cases t <;> rfl
    | zero t => cases s <;> rfl
  | zero s =>
    cases b with
    | notANumber => cases hb
    | zero => rfl
    | infinity t | finite t => cases t <;> rfl
  | finite s m e =>
    cases b with
    | notANumber => cases hb
    | zero => cases s <;> rfl
    | infinity t => cases s <;> cases t <;> rfl
    | finite t m' e' =>
      cases s <;> cases t
      case positive.positive =>
        have magnitudes : (compare e e').then (compare m m') =
            (compare e e').then (compare (m : Int) m') := by
          rw [compare_natCast]
        exact congrArg some magnitudes
      case negative.negative =>
        have magnitudes : ((compare e e').then (compare m m')).swap =
            (compare (-e) (-e')).then (compare (-m : Int) (-m')) := by
          rw [Ordering.swap_then, compare_neg_neg, compare_neg_neg, compare_natCast]
        exact congrArg some magnitudes
      all_goals rfl

theorem compare_eq_none (nan : a.isNaN = true ∨ b.isNaN = true) : a.compare b = none := by
  rcases nan with nan | nan
  · cases a with
    | notANumber => rfl
    | _ => cases nan
  · cases b with
    | notANumber =>
      cases a with
      | infinity s | finite s => cases s <;> rfl
      | _ => rfl
    | _ => cases nan

end Unpacked

variable {x y z : Float}

def order (x y : Float) : Option Ordering := x.toModel.unpack.compare y.toModel.unpack

def rank (x : Float) : Int × Int × Int := key x.toModel.unpack

theorem order_eq_some_iff {o : Ordering} : order x y = some o ↔
    x.isNaN = false ∧ y.isNaN = false ∧ compareKeys (rank x) (rank y) = o := by
  constructor
  · intro ordered
    have comparable : ¬ (x.isNaN = true ∨ y.isNaN = true) := by
      intro nan
      cases ordered.symm.trans (compare_eq_none nan)
    obtain ⟨hx, hy⟩ := not_or.mp comparable
    rw [Bool.not_eq_true] at hx hy
    exact ⟨hx, hy, Option.some.inj ((compare_eq_some hx hy).symm.trans ordered)⟩
  · rintro ⟨hx, hy, rfl⟩
    exact compare_eq_some hx hy

theorem lt_iff : x < y ↔
    x.isNaN = false ∧ y.isNaN = false ∧ compareKeys (rank x) (rank y) = .lt := by
  have unfolded : x < y ↔ order x y = some .lt := decide_eq_true_iff.trans beq_iff_eq
  rw [unfolded, order_eq_some_iff]

theorem le_iff : x ≤ y ↔
    x.isNaN = false ∧ y.isNaN = false ∧ (compareKeys (rank x) (rank y)).isLE = true := by
  have unfolded : x ≤ y ↔ (order x y).any Ordering.isLE = true := decide_eq_true_iff
  rw [unfolded, Option.any_eq_true]
  simp only [order_eq_some_iff]
  constructor
  · rintro ⟨o, ⟨hx, hy, rfl⟩, below⟩
    exact ⟨hx, hy, below⟩
  · rintro ⟨hx, hy, below⟩
    exact ⟨_, ⟨hx, hy, rfl⟩, below⟩

theorem isNaN_of_le (below : x ≤ y) : x.isNaN = false ∧ y.isNaN = false := by
  obtain ⟨hx, hy, -⟩ := le_iff.mp below
  exact ⟨hx, hy⟩

theorem not_lt_iff (hx : x.isNaN = false) (hy : y.isNaN = false) : ¬ y < x ↔ x ≤ y := by
  have swapped : compareKeys (rank y) (rank x) = (compareKeys (rank x) (rank y)).swap :=
    Std.OrientedCmp.eq_swap
  simp only [lt_iff, le_iff, hx, hy, swapped, true_and]
  cases compareKeys (rank x) (rank y) <;> simp

theorem le_refl (hx : x.isNaN = false) : x ≤ x :=
  le_iff.mpr ⟨hx, hx, Std.ReflCmp.isLE_rfl⟩

theorem le_of_lt (below : x < y) : x ≤ y := by
  obtain ⟨hx, hy, below⟩ := lt_iff.mp below
  exact le_iff.mpr ⟨hx, hy, by rw [below]; rfl⟩

theorem le_trans (first : x ≤ y) (second : y ≤ z) : x ≤ z := by
  obtain ⟨hx, -, first⟩ := le_iff.mp first
  obtain ⟨-, hz, second⟩ := le_iff.mp second
  exact le_iff.mpr ⟨hx, hz, Std.TransCmp.isLE_trans first second⟩

theorem le_or_ge (hx : x.isNaN = false) (hy : y.isNaN = false) :
    if decide (x < y) = true then x ≤ y else y ≤ x := by
  split
  case isTrue below => exact le_of_lt (of_decide_eq_true below)
  case isFalse above =>
    exact (not_lt_iff hy hx).mp fun below => above (decide_eq_true below)

end FloatOrder

end SplitTest
