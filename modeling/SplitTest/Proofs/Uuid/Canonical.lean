import Mathlib.Data.UInt
import Mathlib.Data.List.Flatten
import SplitTest.Uuid

namespace SplitTest

namespace Hex

theorem value?_digit {n : Nat} (small : n < 16) : value? (digit n) = some n := by
  have all : ∀ n : Fin 16, value? (digit n) = some n.val := by decide
  exact all ⟨n, small⟩

theorem encode_cons (b : UInt8) (bytes : List UInt8) : (encode (b :: bytes)).toList =
    digit (b.toNat / 16) :: digit (b.toNat % 16) :: (encode bytes).toList := by
  simp only [encode, String.toList_ofList]
  rfl

theorem decode?_encode (bytes : List UInt8) : decode? (encode bytes).toList = some bytes := by
  induction bytes with
  | nil => rfl
  | cons b bytes ih =>
    have high : b.toNat / 16 < 16 := Nat.div_lt_of_lt_mul b.toNat_lt
    have low : b.toNat % 16 < 16 := Nat.mod_lt _ (by decide)
    rw [encode_cons, decode?, value?_digit high, value?_digit low, ih]
    simp only [Option.bind_eq_bind, Option.bind_some, Nat.div_add_mod, UInt8.ofNat_toNat]
    rfl

theorem encode_injective : Function.Injective encode := by
  intro bytes bytes' same
  have read := decode?_encode bytes
  rw [same, decode?_encode] at read
  exact (Option.some.inj read).symm

end Hex

theorem length_intercalate {α : Type} {sep : List α} {parts : List (List α)} :
    (sep.intercalate parts).length =
      (parts.map List.length).sum + sep.length * (parts.length - 1) := by
  induction parts with
  | nil => rfl
  | cons part parts ih =>
    cases parts with
    | nil => simp
    | cons next parts =>
      rw [List.intercalate_cons_cons, List.length_append, ih]
      simp only [List.length_append, List.length_cons, List.map_cons, List.sum_cons,
        Nat.add_sub_cancel, Nat.mul_succ]
      omega

theorem intercalate_inj {α : Type} {sep : List α} {parts parts' : List (List α)}
    (lengths : parts.map List.length = parts'.map List.length)
    (same : sep.intercalate parts = sep.intercalate parts') : parts = parts' := by
  induction parts generalizing parts' with
  | nil => exact (List.map_eq_nil_iff.mp lengths.symm).symm
  | cons part parts ih =>
    obtain _ | ⟨part', parts'⟩ := parts'
    · cases lengths
    · obtain ⟨first, rest⟩ := List.cons.inj lengths
      obtain _ | ⟨next, parts⟩ := parts
      · cases List.map_eq_nil_iff.mp rest.symm
        simpa using same
      · obtain _ | ⟨next', parts'⟩ := parts'
        · cases rest
        · rw [List.intercalate_cons_cons, List.intercalate_cons_cons, List.append_assoc,
            List.append_assoc] at same
          obtain ⟨rfl, after⟩ := List.append_inj same first
          rw [ih rest (List.append_cancel_left after)]

namespace Uuid

def octets (u : Uuid) : List UInt8 :=
  (List.range 16).map fun i => ⟨u.bits.extractLsb' (8 * (15 - i)) 8⟩

/-- Two lower-case digits for each byte, in five parts with a hyphen between neighbours. -/
inductive Canonical (octets : List UInt8) : String → Prop
  | ofParts (parts : List (List Char)) (lengths : parts.map List.length = [8, 4, 4, 4, 12])
      (digits : parts.flatten = (Hex.encode octets).toList) :
      Canonical octets (String.ofList (['-'].intercalate parts))

variable {u v : Uuid} {octets : List UInt8} {text : String}

theorem octets_injective : Function.Injective Uuid.octets := by
  intro u v same
  have same := List.map_inj_left.mp same
  have bits : u.bits = v.bits := by
    apply BitVec.eq_of_getLsbD_eq
    intro k small
    have byte := same (15 - k / 8) (List.mem_range.mpr (by omega))
    have bit := congrArg (fun b : UInt8 => b.toBitVec.getLsbD (k % 8)) byte
    have inside : k % 8 < 8 := Nat.mod_lt _ (by decide)
    have place : 8 * (15 - (15 - k / 8)) + k % 8 = k := by omega
    simpa only [BitVec.getLsbD_extractLsb', inside, place, decide_true, Bool.true_and] using bit
  cases u
  cases v
  exact congrArg mk bits

theorem toNat_octet (u : Uuid) (i : Nat) :
    (UInt8.ofBitVec (u.bits.extractLsb' (8 * (15 - i)) 8)).toNat =
      u.bits.toNat / 256 ^ (15 - i) % 256 := by
  rw [UInt8.toNat_ofBitVec, BitVec.extractLsb'_toNat, Nat.shiftRight_eq_div_pow, Nat.pow_mul]

theorem digits_eq_encode (u : Uuid) : u.digits = (Hex.encode u.octets).toList := by
  have pairs : List.range 32 = (List.range 16).flatMap fun i => [2 * i, 2 * i + 1] := rfl
  rw [digits, Hex.encode, String.toList_ofList, Uuid.octets, List.flatMap_map, pairs,
    List.map_flatMap]
  apply List.flatMap_congr
  intro i there
  have inside : i < 16 := List.mem_range.mp there
  have high : Nat.pow 16 (31 - 2 * i) = 256 ^ (15 - i) * 16 := by
    have place : 31 - 2 * i = 2 * (15 - i) + 1 := by omega
    rw [place, Nat.pow_eq, Nat.pow_succ, Nat.pow_mul]
  have low : Nat.pow 16 (31 - (2 * i + 1)) = 256 ^ (15 - i) := by
    have place : 31 - (2 * i + 1) = 2 * (15 - i) := by omega
    rw [place, Nat.pow_eq, Nat.pow_mul]
  rw [List.map_cons, List.map_singleton, high, low, toNat_octet, ← Nat.div_div_eq_div_mul,
    Nat.mod_mod_of_dvd _ (by decide : 16 ∣ 256)]
  generalize u.bits.toNat / 256 ^ (15 - i) = n
  rw [show n / 16 % 16 = n % 256 / 16 by omega]

theorem map_length_cut {ns : List Nat} {cs : List Char} (enough : ns.sum ≤ cs.length) :
    (cut ns cs).map List.length = ns := by
  induction ns generalizing cs with
  | nil => rfl
  | cons n ns ih =>
    rw [List.sum_cons] at enough
    rw [cut, List.map_cons, List.length_take, ih (by rw [List.length_drop]; omega)]
    exact congrArg (· :: ns) (Nat.min_eq_left (by omega))

theorem flatten_cut {ns : List Nat} {cs : List Char} (all : cs.length ≤ ns.sum) :
    (cut ns cs).flatten = cs := by
  induction ns generalizing cs with
  | nil => exact (List.eq_nil_of_length_eq_zero (Nat.le_zero.mp all)).symm
  | cons n ns ih =>
    rw [List.sum_cons] at all
    rw [cut, List.flatten_cons, ih (by rw [List.length_drop]; omega), List.take_append_drop]

theorem length_digits (u : Uuid) : u.digits.length = groups.sum := by
  rw [digits, List.length_map, List.length_range]
  rfl

theorem text_canonical (u : Uuid) : Canonical u.octets u.text := by
  apply Canonical.ofParts (cut groups u.digits)
  · exact map_length_cut (length_digits u).ge
  · rw [flatten_cut (length_digits u).le, digits_eq_encode]

namespace Canonical

theorem length_eq (canonical : Canonical octets text) : text.length = 36 := by
  obtain ⟨parts, lengths, digits⟩ := canonical
  have five : parts.length = 5 := by simpa using congrArg List.length lengths
  rw [String.length_ofList, length_intercalate, lengths, five]
  rfl

theorem octets_eq {octets' : List UInt8} (canonical : Canonical octets text)
    (canonical' : Canonical octets' text) : octets = octets' := by
  obtain ⟨parts, lengths, digits⟩ := canonical
  generalize same : String.ofList _ = text at canonical'
  obtain ⟨parts', lengths', digits'⟩ := canonical'
  cases intercalate_inj (lengths.trans lengths'.symm) (String.ofList_injective same)
  exact Hex.encode_injective (String.toList_inj.mp (digits.symm.trans digits'))

end Canonical

theorem length_text (u : Uuid) : u.text.length = 36 :=
  (text_canonical u).length_eq

theorem length_toList_text (u : Uuid) : u.text.toList.length = 36 := by
  rw [String.length_toList, length_text]

theorem text_injective : Function.Injective Uuid.text := by
  intro u v same
  have canonical := text_canonical v
  rw [← same] at canonical
  exact octets_injective ((text_canonical u).octets_eq canonical)

end Uuid

end SplitTest
