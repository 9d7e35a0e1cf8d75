import Mathlib.Data.UInt
import SplitTest.Proofs.Text.ByteOrder

namespace SplitTest

theorem append_lt_append {α : Type} [LT α] [Std.Irrefl (· < · : α → α → Prop)] {l l' : List α}
    (lt : l < l') (same : l.length = l'.length) (after after' : List α) :
    l ++ after < l' ++ after' := by
  induction l generalizing l' with
  | nil =>
    rw [List.eq_nil_of_length_eq_zero same.symm] at lt
    exact absurd lt (List.lt_irrefl _)
  | cons a l ih =>
    cases l' with
    | nil => cases same
    | cons b l' =>
      rw [List.cons_append, List.cons_append, List.cons_lt_cons_iff]
      obtain less | ⟨rfl, less⟩ := List.cons_lt_cons_iff.mp lt
      · exact .inl less
      · exact .inr ⟨rfl, ih less (Nat.succ.inj same)⟩

def decimal (digits : List Char) : Nat := Nat.ofDigitChars 10 digits 0

theorem decimal_cons (c : Char) (cs : List Char) :
    decimal (c :: cs) = 10 ^ cs.length * (c.toNat - 48) + decimal cs := by
  rw [decimal, Nat.ofDigitChars_cons, Nat.ofDigitChars_eq_ofDigitChars_zero, Nat.mul_zero,
    Nat.zero_add]
  rfl

structure Spelled (width n : Nat) (digits : List Char) : Prop where
  length_eq : digits.length = width
  isDigit : ∀ c ∈ digits, c.isDigit
  decimal_eq : decimal digits = n

section Order

variable {cs ds : List Char}

theorem decimal_lt (digits : ∀ c ∈ cs, c.isDigit) : decimal cs < 10 ^ cs.length := by
  induction cs with
  | nil => exact Nat.one_pos
  | cons c cs ih =>
    obtain ⟨digit, digits⟩ := List.forall_mem_cons.mp digits
    have below := ih digits
    obtain ⟨-, most⟩ := Char.isDigit_iff_toNat.mp digit
    have top : 10 ^ cs.length * (c.toNat - 48) ≤ 10 ^ cs.length * 9 :=
      Nat.mul_le_mul_left _ (Nat.sub_le_of_le_add most)
    rw [decimal_cons, List.length_cons, Nat.pow_succ]
    omega

theorem decimal_lt_decimal (digits : ∀ c ∈ cs, c.isDigit) (digits' : ∀ c ∈ ds, c.isDigit)
    (same : cs.length = ds.length) (lt : cs < ds) : decimal cs < decimal ds := by
  induction cs generalizing ds with
  | nil =>
    rw [List.eq_nil_of_length_eq_zero same.symm] at lt
    exact absurd lt (List.lt_irrefl _)
  | cons c cs ih =>
    cases ds with
    | nil => cases same
    | cons d ds =>
      obtain ⟨first, rest⟩ := List.forall_mem_cons.mp digits
      obtain ⟨-, rest'⟩ := List.forall_mem_cons.mp digits'
      have same' : cs.length = ds.length := Nat.succ.inj same
      rw [decimal_cons, decimal_cons, same']
      obtain less | ⟨rfl, less⟩ := List.cons_lt_cons_iff.mp lt
      · have below := decimal_lt rest
        have less : c.toNat < d.toNat := less
        obtain ⟨least, -⟩ := Char.isDigit_iff_toNat.mp first
        have least : 48 ≤ c.toNat := least
        have step : 10 ^ ds.length * (c.toNat - 48 + 1) ≤ 10 ^ ds.length * (d.toNat - 48) :=
          Nat.mul_le_mul_left _ (by omega)
        rw [same'] at below
        rw [Nat.mul_add_one] at step
        omega
      · exact Nat.add_lt_add_left (ih rest rest' same' less) _

end Order

namespace Spelled

variable {width n m : Nat} {cs ds : List Char} (spelled : Spelled width n cs)
include spelled

theorem lt (spelled' : Spelled width m ds) (less : n < m) : cs < ds := by
  have same : cs.length = ds.length := spelled.length_eq.trans spelled'.length_eq.symm
  rw [← spelled.decimal_eq, ← spelled'.decimal_eq] at less
  obtain lt | rfl | gt := Std.lt_trichotomy cs ds
  · exact lt
  · exact absurd less (Nat.lt_irrefl _)
  · have more := decimal_lt_decimal spelled'.isDigit spelled.isDigit same.symm gt
    exact absurd less (Nat.lt_asymm more)

theorem unique (spelled' : Spelled width n ds) : cs = ds := by
  have same : cs.length = ds.length := spelled.length_eq.trans spelled'.length_eq.symm
  have equal : decimal cs = decimal ds := spelled.decimal_eq.trans spelled'.decimal_eq.symm
  obtain lt | equal' | gt := Std.lt_trichotomy cs ds
  · exact absurd equal (decimal_lt_decimal spelled.isDigit spelled'.isDigit same lt).ne
  · exact equal'
  · exact absurd equal (decimal_lt_decimal spelled'.isDigit spelled.isDigit same.symm gt).ne'

end Spelled

inductive Written : List (Nat × Char) → List Nat → List Char → Prop
  | nil : Written [] [] []
  | cons {width n : Nat} {mark : Char} {layout : List (Nat × Char)} {ns : List Nat}
      {cs rest : List Char} :
      Spelled width n cs → Written layout ns rest →
        Written ((width, mark) :: layout) (n :: ns) (cs ++ mark :: rest)

namespace Written

variable {layout : List (Nat × Char)} {ns ms : List Nat} {cs ds : List Char}

theorem lt (written : Written layout ns cs) (written' : Written layout ms ds) (less : ns < ms) :
    cs < ds := by
  induction written generalizing ms ds with
  | nil =>
    cases written'
    exact absurd less (List.lt_irrefl _)
  | cons spelled written ih =>
    obtain _ | ⟨spelled', written'⟩ := written'
    obtain lt | ⟨rfl, lt⟩ := List.cons_lt_cons_iff.mp less
    · have same := spelled.length_eq.trans spelled'.length_eq.symm
      exact append_lt_append (spelled.lt spelled' lt) same _ _
    · rw [spelled.unique spelled']
      exact List.append_left_lt (List.cons_lt_cons_self.mpr (ih written' lt))

theorem unique (written : Written layout ns cs) (written' : Written layout ns ds) : cs = ds := by
  induction written generalizing ds with
  | nil =>
    cases written'
    rfl
  | cons spelled written ih =>
    obtain _ | ⟨spelled', written'⟩ := written'
    rw [spelled.unique spelled', ih written']

theorem length_eq (written : Written layout ns cs) :
    cs.length = (layout.map fun field => field.1 + 1).sum := by
  induction written with
  | nil => rfl
  | cons spelled written ih =>
    rw [List.length_append, List.length_cons, spelled.length_eq, ih, List.map_cons, List.sum_cons]
    omega

theorem forall_mem {p : Char → Prop} (digits : ∀ c, c.isDigit → p c)
    (marks : ∀ field ∈ layout, p field.2) (written : Written layout ns cs) : ∀ c ∈ cs, p c := by
  induction written with
  | nil => exact fun _ => nofun
  | cons spelled written ih =>
    obtain ⟨mark, marks⟩ := List.forall_mem_cons.mp marks
    intro c there
    obtain digit | rfl | later := List.mem_append.mp there |>.imp_right List.mem_cons.mp
    · exact digits c (spelled.isDigit c digit)
    · exact mark
    · exact ih marks c later

end Written

end SplitTest
