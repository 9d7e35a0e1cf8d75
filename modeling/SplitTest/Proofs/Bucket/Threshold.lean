import SplitTest.Assign
import SplitTest.Proofs.Digest.Remainder
import SplitTest.Proofs.Numbers

namespace SplitTest

namespace Bucket

variable {experiment subject : Uuid} {percentage : Int32}

theorem toNat_traffic : (traffic experiment subject).toNat =
    Digest.value (Digest.md5 (trafficKey experiment subject).toUTF8.toList) % 100 :=
  Digest.toNat_remainder (by decide) (by decide) _

theorem toInt_bucket : (bucket experiment subject).toInt =
    Digest.value (Digest.md5 (trafficKey experiment subject).toUTF8.toList) % 100 := by
  have small : (traffic experiment subject).toNat < 100 := by
    rw [toNat_traffic]
    exact Nat.mod_lt _ (by decide)
  rw [bucket, toInt_toInt32_of_toNat_lt (small.trans (by decide)), toNat_traffic]
  rfl

theorem bucket_nonneg : 0 ≤ bucket experiment subject := by
  rw [Int32.le_iff_toInt_le, toInt_bucket, Int32.toInt_zero]
  omega

theorem bucket_le : bucket experiment subject ≤ 99 := by
  rw [Int32.le_iff_toInt_le, toInt_bucket, show (99 : Int32).toInt = 99 from rfl]
  omega

theorem bucket_lt_of_hundred (whole : 100 ≤ percentage) :
    bucket experiment subject < percentage :=
  Int32.lt_of_le_of_lt bucket_le (Int32.lt_of_lt_of_le (by decide) whole)

theorem inTraffic_iff : inTraffic experiment subject percentage = true ↔
    bucket experiment subject < percentage := by
  rw [inTraffic, Bool.or_eq_true, decide_eq_true_iff, decide_eq_true_iff]
  exact or_iff_right_of_imp bucket_lt_of_hundred

/-- The remainder of a digest by 100 is the bucket of a subject, and a percentage admits the subject
if it is above that. So percentages from 100 on, which admit without a digest, admit as the digest
would, those up to 0 admit nobody, and a greater percentage admits whom a smaller one did. -/
theorem inTraffic_threshold (experiment subject : Uuid) :
    (bucket experiment subject).toInt =
      Digest.value (Digest.md5 (trafficKey experiment subject).toUTF8.toList) % 100 ∧
    (∃! b : Int32, 0 ≤ b ∧ b ≤ 99 ∧ ∀ p, inTraffic experiment subject p = true ↔ b < p) ∧
    (∀ p, 100 ≤ p → inTraffic experiment subject p = decide (bucket experiment subject < p)) ∧
    (∀ p ≤ 0, inTraffic experiment subject p = false) ∧
    ∀ p q, p ≤ q → inTraffic experiment subject p = true →
      inTraffic experiment subject q = true := by
  refine ⟨toInt_bucket,
    ⟨bucket experiment subject, ⟨bucket_nonneg, bucket_le, fun _ => inTraffic_iff⟩, ?_⟩, ?_, ?_, ?_⟩
  · rintro b ⟨-, -, admits⟩
    -- If one were below the other, the greater one would be a percentage that tells them apart.
    have same (p : Int32) : b < p ↔ bucket experiment subject < p :=
      (admits p).symm.trans inTraffic_iff
    apply Int32.le_antisymm
    · exact Int32.not_lt.mp fun above => Int32.lt_irrefl ((same b).mpr above)
    · exact Int32.not_lt.mp fun below => Int32.lt_irrefl ((same _).mp below)
  · intro p _
    rw [Bool.eq_iff_iff, inTraffic_iff, decide_eq_true_iff]
  · intro p none
    rw [Bool.eq_false_iff, Ne, inTraffic_iff, Int32.not_lt]
    exact Int32.le_trans none bucket_nonneg
  · intro p q le admitted
    rw [inTraffic_iff] at admitted ⊢
    exact Int32.lt_of_lt_of_le admitted le

theorem inTraffic_threshold_opens :
    inTraffic ⟨1⟩ ⟨7⟩ 67 = false ∧ inTraffic ⟨1⟩ ⟨7⟩ 68 = true ∧ inTraffic ⟨1⟩ ⟨7⟩ 150 = true ∧
      inTraffic ⟨1⟩ ⟨7⟩ (-5) = false := by
  have closed : inTraffic ⟨1⟩ ⟨7⟩ 67 = false := by decide +kernel
  have opened : inTraffic ⟨1⟩ ⟨7⟩ 68 = true := by decide +kernel
  obtain ⟨-, -, -, nobody, stays⟩ := inTraffic_threshold ⟨1⟩ ⟨7⟩
  exact ⟨closed, opened, stays 68 150 (by decide) opened, nobody (-5) (by decide)⟩

end Bucket

end SplitTest
