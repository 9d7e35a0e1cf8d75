import Mathlib.Data.String.Basic
import Mathlib.Tactic.SplitIfs

namespace SplitTest

def bytes (text : String) : List UInt8 := text.toUTF8.data.toList

open String (utf8EncodeChar)

variable {c d : Char} {l m : List Char} {s t : String}

theorem bytes_eq_flatMap (text : String) : bytes text = text.toList.flatMap utf8EncodeChar := by
  rw [bytes, String.toUTF8_eq_toByteArray, ← String.utf8Encode_toList, List.utf8Encode,
    List.data_toByteArray, List.toList_toArray]

theorem toList_loop (data : ByteArray) (i : Nat) (read : List UInt8) :
    ByteArray.toList.loop data i read = read.reverse ++ data.data.toList.drop i := by
  fun_induction ByteArray.toList.loop data i read with
  | case1 i read inside ih =>
    have inside : i < data.data.toList.length := inside
    have next : data.get! i = data.data.toList[i] := getElem!_pos data.data i inside
    rw [ih, List.reverse_cons, List.append_assoc, List.drop_eq_getElem_cons inside, next]
    rfl
  | case2 i read outside =>
    have outside : data.data.toList.length ≤ i := Nat.not_lt.mp outside
    rw [List.drop_eq_nil_of_le outside, List.append_nil]

theorem toList_toUTF8 (text : String) : text.toUTF8.toList = bytes text := by
  rw [ByteArray.toList, toList_loop]
  rfl

theorem bytes_injective : Function.Injective bytes := by
  intro s t same
  apply String.toByteArray_inj.mp
  apply ByteArray.ext
  exact Array.toList_inj.mp same

theorem length_flatMap_utf8EncodeChar (single : ∀ c ∈ l, c.utf8Size = 1) :
    (l.flatMap utf8EncodeChar).length = l.length := by
  induction l with
  | nil => rfl
  | cons c l ih =>
    obtain ⟨first, rest⟩ := List.forall_mem_cons.mp single
    rw [List.flatMap_cons, List.length_append, String.length_utf8EncodeChar, first, ih rest,
      List.length_cons, Nat.add_comm]

theorem utf8EncodeChar_append_lt (lt : c < d) (after after' : List UInt8) :
    utf8EncodeChar c ++ after < utf8EncodeChar d ++ after' := by
  have below : c.val.toNat < d.val.toNat := lt
  have range : d.val.toNat < 0x110000 := by
    have valid := d.valid
    simp only [UInt32.isValidChar, Nat.isValidChar] at valid
    omega
  simp only [utf8EncodeChar]
  split_ifs <;>
    simp only [List.cons_append, List.nil_append, List.cons_lt_cons_iff, UInt8.lt_iff_toNat_lt,
      ← UInt8.toNat_inj, UInt8.toNat_ofNat'] <;>
    simp (disch := omega) only [Nat.mod_eq_of_lt] <;>
    omega

theorem flatMap_utf8EncodeChar_lt (lt : l < m) :
    l.flatMap utf8EncodeChar < m.flatMap utf8EncodeChar := by
  induction l generalizing m with
  | nil =>
    cases m with
    | nil => exact absurd lt (List.lt_irrefl _)
    | cons d m =>
      obtain ⟨b, rest, encoded⟩ := List.exists_cons_of_ne_nil (@String.utf8EncodeChar_ne_nil d)
      rw [List.flatMap_nil, List.flatMap_cons, encoded, List.cons_append]
      exact List.nil_lt_cons _ _
  | cons c l ih =>
    cases m with
    | nil => exact absurd lt (List.not_lt_nil _)
    | cons d m =>
      rw [List.flatMap_cons, List.flatMap_cons]
      obtain less | ⟨rfl, less⟩ := List.cons_lt_cons_iff.mp lt
      · exact utf8EncodeChar_append_lt less _ _
      · exact List.append_left_lt (ih less)

theorem bytes_lt_bytes : bytes s < bytes t ↔ s < t := by
  have mono {s t : String} (lt : s < t) : bytes s < bytes t := by
    rw [bytes_eq_flatMap, bytes_eq_flatMap]
    exact flatMap_utf8EncodeChar_lt (String.lt_iff_toList_lt.mp lt)
  refine ⟨fun lt => ?_, mono⟩
  obtain less | rfl | greater := lt_trichotomy s t
  · exact less
  · exact absurd lt (List.lt_irrefl _)
  · exact absurd lt (List.lt_asymm (mono greater))

theorem bytes_le_bytes : bytes s ≤ bytes t ↔ s ≤ t := by
  rw [← List.not_lt, ← String.not_lt, bytes_lt_bytes]

end SplitTest
