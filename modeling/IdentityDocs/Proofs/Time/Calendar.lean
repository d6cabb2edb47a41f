import IdentityDocs.Time.Calendar
import Mathlib.Tactic

/-!
# The date of a day

`Date.ofDay` finds a date that the calendar has, and the day of this date is the day it was found
for. A later day has a later date, where dates are compared by year, month and day. The quotient by
which the year is guessed is off by at most one, which the two bounds on `yearOfDay` say.
-/

namespace IdentityDocs.Time

/-! ## The year of a day -/

theorem daysBeforeYear_mono {a b : Int} (h : a ≤ b) : daysBeforeYear a ≤ daysBeforeYear b := by
  unfold daysBeforeYear
  omega

theorem daysBeforeYear_succ (year : Int) :
    daysBeforeYear (year + 1) = daysBeforeYear year + ((monthLengths (isLeap year)).sum : Nat) := by
  unfold daysBeforeYear isLeap monthLengths
  by_cases h4 : year % 4 = 0 <;> by_cases h100 : year % 100 = 0 <;>
    by_cases h400 : year % 400 = 0 <;> simp [h4, h100, h400] <;> omega

theorem daysBeforeYear_yearOfDay_le (n : Int) : daysBeforeYear (yearOfDay n) ≤ n := by
  unfold yearOfDay
  simp only
  split
  · unfold daysBeforeYear
    omega
  · split
    · assumption
    · omega

theorem lt_daysBeforeYear_yearOfDay (n : Int) : n < daysBeforeYear (yearOfDay n + 1) := by
  unfold yearOfDay
  simp only
  split
  case isTrue h => simpa using h
  case isFalse =>
    split
    · unfold daysBeforeYear
      omega
    · omega

theorem yearOfDay_mono {n n' : Int} (h : n ≤ n') : yearOfDay n ≤ yearOfDay n' := by
  by_contra hlt
  have hle : yearOfDay n' + 1 ≤ yearOfDay n := by omega
  have := daysBeforeYear_mono hle
  have := daysBeforeYear_yearOfDay_le n
  have := lt_daysBeforeYear_yearOfDay n'
  omega

/-- The day of the year, counted from zero. -/
def dayOfYear (n : Int) : Nat := (n - daysBeforeYear (yearOfDay n)).toNat

theorem eq_daysBeforeYear_add (n : Int) : n = daysBeforeYear (yearOfDay n) + dayOfYear n := by
  have := daysBeforeYear_yearOfDay_le n
  unfold dayOfYear
  omega

theorem dayOfYear_lt (n : Int) : dayOfYear n < (monthLengths (isLeap (yearOfDay n))).sum := by
  have hlt := lt_daysBeforeYear_yearOfDay n
  rw [daysBeforeYear_succ] at hlt
  have := eq_daysBeforeYear_add n
  omega

/-! ## The month of a day -/

/-- A day of the year lies in the month after those that are over. -/
theorem exists_splitMonths_eq {lengths : List Nat} {n : Nat} (h : n < lengths.sum) (month : Nat) :
    ∃ i d, d < lengths.getD i 0 ∧ n = (lengths.take i).sum + d ∧
      splitMonths month lengths n = (month + i, d + 1) := by
  induction lengths generalizing n month with
  | nil => simp at h
  | cons length lengths ih =>
    unfold splitMonths
    by_cases hn : n < length
    · exact ⟨0, n, by simpa using hn, by simp, by simp [hn]⟩
    · rw [List.sum_cons] at h
      obtain ⟨i, d, hd, hsum, heq⟩ := ih (n := n - length) (by omega) (month + 1)
      refine ⟨i + 1, d, by simpa using hd, ?_, ?_⟩
      · rw [List.take_succ_cons, List.sum_cons]
        omega
      · rw [if_neg hn, heq]
        congr 1
        omega

theorem le_splitMonths (month : Nat) (lengths : List Nat) (n : Nat) :
    month ≤ (splitMonths month lengths n).1 := by
  induction lengths generalizing month n with
  | nil => exact le_refl _
  | cons length lengths ih =>
    unfold splitMonths
    split
    · exact le_refl _
    · exact (Nat.le_succ month).trans (ih (month + 1) (n - length))

/-- A later day of the year lies in a later month, or in the same month and later there. -/
theorem splitMonths_lt {lengths : List Nat} {n n' : Nat} (hlt : n < n') (h : n < lengths.sum)
    (month : Nat) :
    (splitMonths month lengths n).1 < (splitMonths month lengths n').1 ∨
      (splitMonths month lengths n).1 = (splitMonths month lengths n').1 ∧
        (splitMonths month lengths n).2 < (splitMonths month lengths n').2 := by
  induction lengths generalizing n n' month with
  | nil => simp at h
  | cons length lengths ih =>
    unfold splitMonths
    by_cases hn' : n' < length
    · have hn : n < length := hlt.trans hn'
      rw [if_pos hn, if_pos hn']
      exact .inr ⟨rfl, by omega⟩
    · by_cases hn : n < length
      · rw [if_pos hn, if_neg hn']
        exact .inl (le_splitMonths (month + 1) lengths (n' - length))
      · rw [if_neg hn, if_neg hn']
        rw [List.sum_cons] at h
        exact ih (by omega) (by omega) (month + 1)

theorem getD_monthLengths_le (leap : Bool) (i : Nat) : (monthLengths leap).getD i 0 ≤ 31 := by
  by_cases hi : i < 12
  · cases leap <;> interval_cases i <;> decide
  · rw [List.getD_eq_getElem?_getD, List.getElem?_eq_none (by simpa [monthLengths] using hi)]
    exact Nat.zero_le 31

theorem monthLength_le (leap : Bool) (month : Nat) : monthLength leap month ≤ 31 := by
  unfold monthLength
  split
  · exact Nat.zero_le 31
  · exact getD_monthLengths_le leap (month - 1)

/-! ## Dates -/

/-- A date comes before another: years are compared first, then months, then days. -/
def Date.Before (a b : Date) : Prop :=
  a.year < b.year ∨ a.year = b.year ∧ (a.month < b.month ∨ a.month = b.month ∧ a.day < b.day)

namespace Date

theorem ofDay_eq (n : Int) :
    ofDay n =
      ⟨yearOfDay n, (splitMonths 1 (monthLengths (isLeap (yearOfDay n))) (dayOfYear n)).1,
        (splitMonths 1 (monthLengths (isLeap (yearOfDay n))) (dayOfYear n)).2⟩ := rfl

/-- The calendar has the date of a day, and the day of this date is the day. -/
theorem ofDay_spec (n : Int) :
    1 ≤ (ofDay n).month ∧ (ofDay n).month ≤ 12 ∧ 1 ≤ (ofDay n).day ∧
      (ofDay n).day ≤ monthLength (isLeap (yearOfDay n)) (ofDay n).month ∧
      (ofDay n).toDay = n := by
  obtain ⟨i, d, hd, hsum, heq⟩ := exists_splitMonths_eq (dayOfYear_lt n) 1
  have hi : i < 12 := by
    by_contra hge
    rw [List.getD_eq_getElem?_getD,
      List.getElem?_eq_none (by simpa [monthLengths] using hge)] at hd
    exact absurd hd (Nat.not_lt_zero d)
  have hdate : ofDay n = ⟨yearOfDay n, 1 + i, d + 1⟩ := by rw [ofDay_eq, heq]
  rw [hdate]
  refine ⟨by simp, by simp only; omega, by simp, ?_, ?_⟩
  · unfold monthLength
    rw [if_neg (by simp), Nat.add_sub_cancel_left]
    exact hd
  · have hn := eq_daysBeforeYear_add n
    have hmonth : daysBeforeMonth (isLeap (yearOfDay n)) (1 + i) =
        ((monthLengths (isLeap (yearOfDay n))).take i).sum := by
      rw [daysBeforeMonth, Nat.add_sub_cancel_left]
      rfl
    unfold toDay
    simp only [hmonth, Nat.add_sub_cancel]
    omega

theorem exists?_ofDay (n : Int) : (ofDay n).exists? = true := by
  obtain ⟨-, -, hpos, hle, -⟩ := ofDay_spec n
  unfold exists?
  rw [Bool.and_eq_true, decide_eq_true_eq, decide_eq_true_eq]
  exact ⟨hpos, hle⟩

theorem toDay_ofDay (n : Int) : (ofDay n).toDay = n := (ofDay_spec n).2.2.2.2

theorem day_ofDay_le (n : Int) : (ofDay n).day ≤ 31 :=
  (ofDay_spec n).2.2.2.1.trans (monthLength_le _ _)

/-- A later day has a later date. -/
theorem before_ofDay {n n' : Int} (h : n < n') : (ofDay n).Before (ofDay n') := by
  simp only [ofDay_eq, Before]
  rcases (yearOfDay_mono h.le).lt_or_eq with hyear | hyear
  · exact .inl hyear
  · refine .inr ⟨hyear, ?_⟩
    have hn := eq_daysBeforeYear_add n
    have hn' := eq_daysBeforeYear_add n'
    rw [hyear] at hn
    have hday : dayOfYear n < dayOfYear n' := by omega
    rw [hyear]
    exact splitMonths_lt hday (hyear ▸ dayOfYear_lt n) 1

end Date

end IdentityDocs.Time
