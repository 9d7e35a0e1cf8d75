import SplitTest.Proofs.Text.Digits
import SplitTest.Proofs.Timestamp.Calendar

namespace SplitTest

namespace Moment

structure Valid (m : Moment) : Prop where
  date : m.date.Valid
  hour : m.hour < 24
  minute : m.minute < 60
  second : m.second < 60
  millisecond : m.millisecond < 1000

def instant (m : Moment) : Int :=
  (((m.date.number * 24 + m.hour) * 60 + m.minute) * 60 + m.second) * 1000 + m.millisecond

def fields (m : Moment) : List Nat :=
  [m.date.year.toNat, m.date.month, m.date.day, m.hour, m.minute, m.second, m.millisecond]

def layout : List (Nat × Char) :=
  [(4, '-'), (2, '-'), (2, 'T'), (2, ':'), (2, ':'), (2, '.'), (3, 'Z')]

variable {m m' : Moment}

theorem instant_lt_of_number_lt (valid : m.Valid) (earlier : m.date.number < m'.date.number) :
    m.instant < m'.instant := by
  obtain ⟨-, hour, minute, second, millisecond⟩ := valid
  simp only [instant]
  omega

theorem instant_lt_of_fields_lt (valid : m.Valid) (valid' : m'.Valid) (era : 0 ≤ m.date.year)
    (era' : 0 ≤ m'.date.year) (earlier : m.fields < m'.fields) : m.instant < m'.instant := by
  simp only [fields, List.cons_lt_cons_iff, List.not_lt_nil, and_false, or_false] at earlier
  obtain year | ⟨year, rest⟩ := earlier
  · have year : m.date.year < m'.date.year := by omega
    exact instant_lt_of_number_lt valid (valid.date.number_lt_of_year_lt valid'.date year)
  have year : m.date.year = m'.date.year := by omega
  obtain month | ⟨month, rest⟩ := rest
  · exact instant_lt_of_number_lt valid (valid.date.number_lt_of_month_lt valid'.date year month)
  have number : m'.date.number - m.date.number = m'.date.day - m.date.day := by
    rw [Date.number, Date.number, year, month]
    omega
  obtain ⟨-, hour, minute, second, millisecond⟩ := valid
  simp only [instant]
  omega

theorem eq_of_fields_eq (era : 0 ≤ m.date.year) (era' : 0 ≤ m'.date.year)
    (same : m.fields = m'.fields) : m = m' := by
  obtain ⟨⟨year, month, day⟩, hour, minute, second, millisecond⟩ := m
  obtain ⟨⟨year', month', day'⟩, hour', minute', second', millisecond'⟩ := m'
  simp only [fields, List.cons.injEq, and_true] at same
  obtain ⟨years, rfl, rfl, rfl, rfl, rfl, rfl⟩ := same
  have equal : year = year' := (Int.toNat_of_nonneg era).symm.trans
    ((congrArg Nat.cast years).trans (Int.toNat_of_nonneg era'))
  rw [equal]

theorem valid_ofSeconds (seconds : Int) {millisecond : Nat} (fits : millisecond < 1000) :
    (ofSeconds seconds millisecond).Valid where
  date := Date.valid_ofDays _
  hour := by simp only [ofSeconds]; omega
  minute := Nat.mod_lt _ (by decide)
  second := Nat.mod_lt _ (by decide)
  millisecond := fits

theorem instant_ofSeconds (seconds : Int) (millisecond : Nat) :
    (ofSeconds seconds millisecond).instant = seconds * 1000 + millisecond := by
  simp only [ofSeconds, instant, Date.number_ofDays]
  omega

theorem spelled_padded {width n : Nat} (positive : 0 < width) (fits : n < 10 ^ width) :
    Spelled width n (padded width n).toList := by
  have short : (Nat.toDigits 10 n).length ≤ width :=
    (Nat.length_toDigits_le_iff (by decide) positive).mpr fits
  rw [padded, String.toList_ofList]
  constructor
  · rw [List.length_append, List.length_replicate]
    exact Nat.sub_add_cancel short
  · intro c there
    obtain zero | digit := List.mem_append.mp there
    · rw [List.eq_of_mem_replicate zero]
      rfl
    · exact Nat.isDigit_of_mem_toDigits (by decide) (by decide) digit
  · rw [decimal, Nat.ofDigitChars_append, Nat.ofDigitChars_replicate_zero, Nat.mul_zero,
      Nat.ofDigitChars_ten_toDigits]

theorem written_text (valid : m.Valid) (short : m.date.year.toNat < 10 ^ 4) :
    Written layout m.fields m.text.toList := by
  obtain ⟨date, hour, minute, second, millisecond⟩ := valid
  have month : m.date.month < 10 ^ 2 := Nat.lt_of_le_of_lt date.month_le (by decide)
  have day : m.date.day < 10 ^ 2 :=
    Nat.lt_of_le_of_lt (date.day_le.trans Date.monthLength_le) (by decide)
  have shape : m.text.toList = (padded 4 m.date.year.toNat).toList ++ '-' ::
      ((padded 2 m.date.month).toList ++ '-' :: ((padded 2 m.date.day).toList ++ 'T' ::
      ((padded 2 m.hour).toList ++ ':' :: ((padded 2 m.minute).toList ++ ':' ::
      ((padded 2 m.second).toList ++ '.' :: ((padded 3 m.millisecond).toList ++ ['Z'])))))) := by
    simp [text]
  rw [shape]
  apply Written.cons (spelled_padded (by decide) short)
  apply Written.cons (spelled_padded (by decide) month)
  apply Written.cons (spelled_padded (by decide) day)
  apply Written.cons (spelled_padded (by decide) (hour.trans (by decide)))
  apply Written.cons (spelled_padded (by decide) (minute.trans (by decide)))
  apply Written.cons (spelled_padded (by decide) (second.trans (by decide)))
  exact Written.cons (spelled_padded (by decide) millisecond) .nil

end Moment

/-- A text of twenty-four characters that shows a moment, some milliseconds after 1970 began. -/
def Denotes (text : String) (instant : Int) : Prop :=
  ∃ m : Moment, m.Valid ∧ 0 ≤ m.date.year ∧ m.instant = instant ∧
    Written Moment.layout m.fields text.toList

namespace Denotes

variable {s t : String} {i j : Int} (denotes : Denotes s i)
include denotes

theorem lt (denotes' : Denotes t j) (less : i < j) : s < t := by
  obtain ⟨m, valid, era, rfl, written⟩ := denotes
  obtain ⟨m', valid', era', rfl, written'⟩ := denotes'
  obtain earlier | same | later := Std.lt_trichotomy m.fields m'.fields
  · exact String.lt_iff_toList_lt.mpr (written.lt written' earlier)
  · rw [Moment.eq_of_fields_eq era era' same] at less
    exact absurd less (Int.lt_irrefl _)
  · have more := Moment.instant_lt_of_fields_lt valid' valid era' era later
    exact absurd less (Int.not_lt.mpr (Int.le_of_lt more))

theorem instant_unique (denotes' : Denotes s j) : i = j := by
  obtain less | equal | more := Int.lt_trichotomy i j
  · exact absurd (denotes.lt denotes' less) (String.lt_irrefl _)
  · exact equal
  · exact absurd (denotes'.lt denotes more) (String.lt_irrefl _)

theorem text_unique (denotes' : Denotes t i) : s = t := by
  obtain ⟨m, valid, era, rfl, written⟩ := denotes
  obtain ⟨m', valid', era', same, written'⟩ := denotes'
  obtain earlier | equal | later := Std.lt_trichotomy m.fields m'.fields
  · exact absurd same.symm (Moment.instant_lt_of_fields_lt valid valid' era era' earlier).ne
  · rw [equal] at written
    exact String.toList_injective (written.unique written')
  · exact absurd same (Moment.instant_lt_of_fields_lt valid' valid era' era later).ne

theorem length_bytes : (bytes s).length = 24 := by
  obtain ⟨m, -, -, -, written⟩ := denotes
  have ascii : ∀ c ∈ s.toList, c.utf8Size = 1 := by
    apply written.forall_mem (p := fun c => c.utf8Size = 1)
    · intro c digit
      obtain ⟨-, most⟩ := Char.isDigit_iff_toNat.mp digit
      exact Char.utf8Size_eq_one_iff.mpr (UInt32.le_iff_toNat_le.mpr (most.trans (by decide)))
    · decide
  rw [bytes_eq_flatMap, length_flatMap_utf8EncodeChar ascii, written.length_eq]
  rfl

end Denotes

namespace Timestamp

theorem tdiv_cases (n d : Int) :
    0 ≤ n ∧ n.tdiv d = n / d ∨ n < 0 ∧ n.tdiv d = -(-n / d) := by
  obtain nonneg | negative := Int.lt_or_le n 0 |>.symm
  · exact .inl ⟨nonneg, Int.tdiv_eq_ediv_of_nonneg nonneg⟩
  · refine .inr ⟨negative, ?_⟩
    rw [← Int.tdiv_eq_ediv_of_nonneg (by omega : 0 ≤ -n), Int.neg_tdiv, Int.neg_neg]

variable (t : Timestamp)

theorem toInt_seconds : t.seconds.toInt = t.nanoseconds.toInt.tdiv 1000000000 :=
  Int64.toInt_div_of_ne_right _ _ (by decide)

theorem toInt_leftover : t.leftover.toInt =
    (t.nanoseconds.toInt - t.nanoseconds.toInt.tdiv 1000000000 * 1000000000).tdiv 1000000 := by
  have least := t.nanoseconds.le_toInt
  have most := t.nanoseconds.toInt_lt
  have whole := tdiv_cases t.nanoseconds.toInt 1000000000
  have billion : (1000000000 : Int64).toInt = 1000000000 := by decide
  have million : (1000000 : Int64).toInt = 1000000 := by decide
  rw [leftover, Int64.toInt_div_of_ne_right _ _ (by decide), million, Int64.toInt_sub,
    Int64.toInt_mul, toInt_seconds, billion, Int.sub_bmod_bmod,
    Int.bmod_eq_of_le (by omega) (by omega)]

theorem split_spec : 0 ≤ t.split.2.toInt ∧ t.split.2.toInt < 1000 ∧
    t.split.1.toInt * 1000 + t.split.2.toInt = t.milliseconds := by
  have least := t.nanoseconds.le_toInt
  have most := t.nanoseconds.toInt_lt
  have whole := tdiv_cases t.nanoseconds.toInt 1000000
  have seconds := tdiv_cases t.nanoseconds.toInt 1000000000
  have leftover := tdiv_cases
    (t.nanoseconds.toInt - t.nanoseconds.toInt.tdiv 1000000000 * 1000000000) 1000000
  rw [← toInt_leftover] at leftover
  rw [← toInt_seconds] at seconds leftover
  rw [milliseconds, split]
  split
  case isTrue negative =>
    have negative : t.leftover.toInt < 0 := Int64.lt_iff_toInt_lt.mp negative
    have one : (1 : Int64).toInt = 1 := by decide
    have thousand : (1000 : Int64).toInt = 1000 := by decide
    rw [Int64.toInt_sub, Int64.toInt_add, one, thousand,
      Int.bmod_eq_of_le (by omega) (by omega), Int.bmod_eq_of_le (by omega) (by omega)]
    omega
  case isFalse nonneg =>
    have nonneg : 0 ≤ t.leftover.toInt := Int64.le_iff_toInt_le.mp (Int64.not_lt.mp nonneg)
    dsimp only
    omega

theorem instant_moment : t.moment.instant = t.milliseconds := by
  obtain ⟨nonneg, -, sum⟩ := t.split_spec
  rw [moment, Moment.instant_ofSeconds, Int.toNat_of_nonneg nonneg, sum]

theorem valid_moment : t.moment.Valid := by
  obtain ⟨nonneg, fits, -⟩ := t.split_spec
  exact Moment.valid_ofSeconds _ ((Int.toNat_lt nonneg).mpr fits)

theorem year_moment : 0 ≤ t.moment.date.year ∧ t.moment.date.year < 10000 := by
  have least := t.nanoseconds.le_toInt
  have most := t.nanoseconds.toInt_lt
  have whole := tdiv_cases t.nanoseconds.toInt 1000000
  have same := t.instant_moment
  have valid := t.valid_moment
  obtain ⟨-, hour, minute, second, millisecond⟩ := id valid
  rw [Moment.instant, milliseconds] at same
  constructor
  · apply valid.date.le_year
    have first : Date.yearStart 0 = -719528 := by decide
    omega
  · apply valid.date.year_lt
    have last : Date.yearStart 10000 = 2932897 := by decide
    omega

theorem denotes_text : Denotes t.text t.milliseconds := by
  obtain ⟨nonneg, short⟩ := t.year_moment
  exact ⟨t.moment, t.valid_moment, nonneg, t.instant_moment,
    Moment.written_text t.valid_moment ((Int.toNat_lt nonneg).mpr short)⟩

variable {t} {t' : Timestamp}

theorem milliseconds_mono (le : t.nanoseconds ≤ t'.nanoseconds) :
    t.milliseconds ≤ t'.milliseconds := by
  have le : t.nanoseconds.toInt ≤ t'.nanoseconds.toInt := Int64.le_iff_toInt_le.mp le
  have whole := tdiv_cases t.nanoseconds.toInt 1000000
  have whole' := tdiv_cases t'.nanoseconds.toInt 1000000
  rw [milliseconds, milliseconds]
  omega

theorem text_lt_text (less : t.milliseconds < t'.milliseconds) : t.text < t'.text :=
  t.denotes_text.lt t'.denotes_text less

theorem text_eq_text (same : t.milliseconds = t'.milliseconds) : t.text = t'.text := by
  have denotes := t.denotes_text
  rw [same] at denotes
  exact denotes.text_unique t'.denotes_text

/-- The text of a timestamp has twenty-four bytes and denotes the instant in milliseconds, rounded
toward zero. So the texts of two timestamps are equal if these milliseconds are, and no later
timestamp has a lesser text. -/
theorem text_denotes (t : Timestamp) :
    (∀ instant, Denotes t.text instant ↔ instant = t.nanoseconds.toInt.tdiv 1000000) ∧
    (bytes t.text).length = 24 ∧
    ∀ t' : Timestamp,
      (t.text = t'.text ↔
        t.nanoseconds.toInt.tdiv 1000000 = t'.nanoseconds.toInt.tdiv 1000000) ∧
      (t.nanoseconds ≤ t'.nanoseconds → bytes t.text ≤ bytes t'.text) := by
  refine ⟨fun instant => ⟨fun denotes => denotes.instant_unique t.denotes_text, ?_⟩,
    t.denotes_text.length_bytes, fun t' => ⟨⟨fun same => ?_, text_eq_text⟩, fun le => ?_⟩⟩
  · rintro rfl
    exact t.denotes_text
  · obtain less | equal | more := Int.lt_trichotomy t.milliseconds t'.milliseconds
    · exact absurd same (String.ne_of_lt (text_lt_text less))
    · exact equal
    · exact absurd same.symm (String.ne_of_lt (text_lt_text more))
  · rw [bytes_le_bytes]
    obtain less | equal := Int.lt_or_eq_of_le (milliseconds_mono le)
    · exact Std.le_of_lt (text_lt_text less)
    · rw [text_eq_text equal]

theorem text_denotes_leap_day :
    let t : Timestamp := ⟨-1500000⟩
    let t' : Timestamp := ⟨951782400000000000⟩
    t.text = "1969-12-31T23:59:59.999Z" ∧ t'.text = "2000-02-29T00:00:00.000Z" ∧
      t.nanoseconds ≤ t'.nanoseconds ∧ bytes t.text ≤ bytes t'.text := by
  intro t t'
  have le : t.nanoseconds ≤ t'.nanoseconds := by decide
  obtain ⟨-, -, others⟩ := text_denotes t
  exact ⟨by decide +kernel, by decide +kernel, le, (others t').2 le⟩

end Timestamp

end SplitTest
