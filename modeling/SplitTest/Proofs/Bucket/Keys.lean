import Mathlib.Logic.Function.Basic
import SplitTest.Assign
import SplitTest.Proofs.Text.ByteOrder
import SplitTest.Proofs.Uuid.Canonical

namespace SplitTest.Bucket

variable (experiment subject : Uuid)

theorem toList_variantKey : (variantKey experiment subject).toList =
    experiment.text.toList ++ ':' :: subject.text.toList := by
  have key : variantKey experiment subject = experiment.text ++ ":" ++ subject.text := rfl
  rw [key, String.toList_append, String.toList_append, List.append_assoc]
  rfl

theorem trafficKey_eq :
    trafficKey experiment subject = "traffic:" ++ variantKey experiment subject := by
  simp only [trafficKey, variantKey, String.append_assoc]
  rfl

theorem length_variantKey : (variantKey experiment subject).length = 73 := by
  rw [← String.length_toList, toList_variantKey, List.length_append, List.length_cons,
    Uuid.length_toList_text, Uuid.length_toList_text]

theorem length_trafficKey : (trafficKey experiment subject).length = 81 := by
  rw [trafficKey_eq, String.length_append, length_variantKey]
  rfl

theorem variantKey_injective : Function.Injective2 variantKey := by
  intro experiment experiment' subject subject' same
  have same := congrArg String.toList same
  rw [toList_variantKey, toList_variantKey] at same
  have widths : experiment.text.toList.length = experiment'.text.toList.length := by
    rw [Uuid.length_toList_text, Uuid.length_toList_text]
  obtain ⟨first, second⟩ := List.append_inj same widths
  constructor
  · exact Uuid.text_injective (String.toList_inj.mp first)
  · exact Uuid.text_injective (String.toList_inj.mp (List.cons.inj second).2)

theorem trafficKey_injective : Function.Injective2 trafficKey := by
  intro experiment experiment' subject subject' same
  rw [trafficKey_eq, trafficKey_eq] at same
  exact variantKey_injective ((String.append_right_inj _).mp same)

theorem trafficKey_ne_variantKey (experiment' subject' : Uuid) :
    trafficKey experiment subject ≠ variantKey experiment' subject' := by
  intro same
  have lengths := congrArg String.length same
  rw [length_trafficKey, length_variantKey] at lengths
  cases lengths

/-- Identifiers are written in thirty-six characters, their canonical form. With these a key of
either kind tells the experiment and the subject, and no key of one kind is one of the other, nor
are its bytes, which are what is hashed. -/
theorem keys_separated :
    (∀ u : Uuid, u.text.length = 36 ∧ Uuid.Canonical u.octets u.text) ∧
    Function.Injective2 trafficKey ∧ Function.Injective2 variantKey ∧
    ∀ experiment subject experiment' subject',
      trafficKey experiment subject ≠ variantKey experiment' subject' ∧
      (trafficKey experiment subject).toUTF8.toList ≠
        (variantKey experiment' subject').toUTF8.toList := by
  refine ⟨fun u => ⟨u.length_text, u.text_canonical⟩, trafficKey_injective, variantKey_injective,
    fun experiment subject experiment' subject' => ?_⟩
  have apart := trafficKey_ne_variantKey experiment subject experiment' subject'
  refine ⟨apart, fun same => apart ?_⟩
  rw [toList_toUTF8, toList_toUTF8] at same
  exact bytes_injective same

example : trafficKey ⟨0x00112233445566778899aabbccddeeff⟩ ⟨7⟩ =
    "traffic:00112233-4455-6677-8899-aabbccddeeff:00000000-0000-0000-0000-000000000007" := by
  decide +kernel

end SplitTest.Bucket
