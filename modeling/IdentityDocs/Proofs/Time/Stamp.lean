import IdentityDocs.Proofs.Time.Calendar
import IdentityDocs.Time.Reader
import IdentityDocs.Time.Stamp

/-!
# Stored instants are read back

The stored form of an instant of the years 0 to 9999 denotes that instant and no other, whatever
the number of digits that its fraction is written with. Years beyond these are written with a sign,
which the reader of stored instants refuses.
-/

namespace IdentityDocs.Time

/-! ## Digits -/

@[simp] theorem length_digits (width n : Nat) : (digits width n).length = width := by
  induction width generalizing n with
  | zero => rfl
  | succ width ih => simp [digits, ih]

theorem isDigit_digitChar {d : Nat} (h : d < 10) : (Nat.digitChar d).isDigit = true := by
  interval_cases d <;> decide

theorem isDigit_of_mem_digits {width n : Nat} {c : Char} (h : c ∈ digits width n) :
    c.isDigit = true := by
  induction width generalizing n with
  | zero => exact absurd h List.not_mem_nil
  | succ width ih =>
    rcases List.mem_append.1 h with h | h
    · exact ih h
    · rw [List.mem_singleton.1 h]
      exact isDigit_digitChar (Nat.mod_lt n (by decide))

theorem digitsValue_digits (width n : Nat) : digitsValue (digits width n) = n % 10 ^ width := by
  unfold digitsValue
  induction width generalizing n with
  | zero => simp [digits, Nat.mod_one]
  | succ width ih =>
    have hdigit : (Nat.digitChar (n % 10)).toNat - 48 = n % 10 := by
      rw [Nat.toNat_digitChar_of_lt_ten (Nat.mod_lt n (by decide)), Nat.add_sub_cancel_left]
    rw [digits, List.foldl_append, ih, List.foldl_cons, List.foldl_nil, hdigit, pow_succ',
      Nat.mod_mul]
    ring

theorem readFixed_digits {width n : Nat} (h : n < 10 ^ width) (rest : List Char) :
    readFixed width (digits width n ++ rest) = some (n, rest) := by
  have htake : (digits width n ++ rest).take width = digits width n :=
    List.take_left' (length_digits width n)
  have hdrop : (digits width n ++ rest).drop width = rest :=
    List.drop_left' (length_digits width n)
  have hall : (digits width n).all Char.isDigit = true :=
    List.all_eq_true.2 fun c hc => isDigit_of_mem_digits hc
  simp only [readFixed, htake, hdrop, length_digits, hall, and_self, if_true, digitsValue_digits,
    Nat.mod_eq_of_lt h]

/-! ## Fractions and offsets -/

/-- A fraction is written as nothing or as the fewest groups of three digits that lose nothing. -/
theorem exists_fractionChars_eq {n : Nat} (hpos : n ≠ 0) (h : n < 1000000000) :
    ∃ width m, 0 < width ∧ width ≤ 9 ∧ m < 10 ^ width ∧ m * 10 ^ (9 - width) = n ∧
      fractionChars n = '.' :: digits width m := by
  unfold fractionChars
  rw [if_neg hpos]
  by_cases h6 : n % 1000000 = 0
  · exact ⟨3, n / 1000000, by omega, by omega, by omega, by omega, if_pos h6⟩
  · rw [if_neg h6]
    by_cases h3 : n % 1000 = 0
    · exact ⟨6, n / 1000, by omega, by omega, by omega, by omega, if_pos h3⟩
    · exact ⟨9, n, by omega, by omega, by omega, by omega, if_neg h3⟩

theorem readFraction_fractionChars {n : Nat} (h : n < 1000000000) (rest : List Char) :
    readFraction (fractionChars n ++ '+' :: rest) = some (n, '+' :: rest) := by
  by_cases hpos : n = 0
  · subst hpos
    rfl
  · obtain ⟨width, m, hwidth, hle, hm, hvalue, hchars⟩ := exists_fractionChars_eq hpos h
    have htake : (digits width m ++ '+' :: rest).takeWhile Char.isDigit = digits width m := by
      rw [List.takeWhile_append_of_pos fun c hc => isDigit_of_mem_digits hc,
        List.takeWhile_cons_of_neg (by decide), List.append_nil]
    have hdrop : (digits width m ++ '+' :: rest).dropWhile Char.isDigit = '+' :: rest := by
      rw [List.dropWhile_append_of_pos fun c hc => isDigit_of_mem_digits hc,
        List.dropWhile_cons_of_neg (by decide)]
    have hne : digits width m ≠ [] := by
      intro hnil
      have hlength := length_digits width m
      rw [hnil, List.length_nil] at hlength
      omega
    have hkept : (digits width m).take 9 = digits width m :=
      List.take_of_length_le (by rw [length_digits]; exact hle)
    rw [hchars, List.cons_append]
    simp only [readFraction, htake, hdrop, if_neg hne, hkept, digitsValue_digits, length_digits,
      Nat.mod_eq_of_lt hm]
    rw [Nat.pow_eq, hvalue]

/-- The offset of universal time, as it is stored. -/
def zeroOffset : List Char := ['+', '0', '0', ':', '0', '0']

theorem readOffset_zeroOffset : readOffset (readChar ':') zeroOffset = some (0, []) := by decide

end IdentityDocs.Time

namespace IdentityDocs.Instant

open Time

/-! ## Instants that can be stored -/

/-- An instant of the years 0 to 9999. Its fraction is below one second, or below two in the last
second of a minute, which is how a leap second is written. -/
structure Dated (t : Instant) : Prop where
  year_nonneg : 0 ≤ t.date.year
  year_le : t.date.year ≤ 9999
  nanos : t.nanos < nanosPerSecond ∨ t.secondOfDay % 60 = 59 ∧ t.nanos < 2 * nanosPerSecond

variable {t : Instant}

theorem hour_lt (t : Instant) : t.hour < 24 := by
  unfold hour secondOfDay
  omega

theorem minute_lt (t : Instant) : t.minute < 60 := Nat.mod_lt _ (by decide)

theorem second_le (t : Instant) : t.second ≤ 60 := by
  unfold second
  split <;> omega

theorem month_le (t : Instant) : t.date.month ≤ 12 := (Date.ofDay_spec t.day).2.1

/-- A leap second is written as second 60, and its fraction without the whole second. -/
theorem Dated.second_eq (h : t.Dated) :
    t.nanos < nanosPerSecond ∧ t.second = t.secondOfDay % 60 ∧ t.fraction = t.nanos ∨
      t.second = 60 ∧ t.secondOfDay % 60 = 59 ∧ t.fraction + nanosPerSecond = t.nanos := by
  have hnanos := h.nanos
  unfold second fraction inLeapSecond
  unfold nanosPerSecond at *
  simp only [decide_eq_true_eq]
  split <;> omega

theorem Dated.fraction_lt (h : t.Dated) : t.fraction < 1000000000 := by
  have hnanos := h.nanos
  unfold fraction inLeapSecond
  unfold nanosPerSecond at *
  simp only [decide_eq_true_eq]
  split <;> omega

theorem Dated.coe_year (h : t.Dated) : (t.date.year.toNat : Int) = t.date.year :=
  Int.toNat_of_nonneg h.year_nonneg

theorem Dated.year_lt (h : t.Dated) : t.date.year.toNat < 10 ^ 4 := by
  have := h.coe_year
  have := h.year_le
  omega

/-- The stored form, field by field. -/
theorem Dated.toList_stamp (h : t.Dated) :
    t.stamp.toList = digits 4 t.date.year.toNat ++ '-' :: (digits 2 t.date.month ++
      '-' :: (digits 2 t.date.day ++ 'T' :: (digits 2 t.hour ++ ':' :: (digits 2 t.minute ++
        ':' :: (digits 2 t.second ++ (fractionChars t.fraction ++ zeroOffset)))))) := by
  have hyear : yearChars t.date.year = digits 4 t.date.year.toNat :=
    if_pos ⟨h.year_nonneg, h.year_le⟩
  rw [stamp, String.toList_ofList]
  simp only [bareChars, dateChars, secondChars, minuteChars, hyear, List.append_assoc,
    List.cons_append, zeroOffset]

/-! ## Reading -/

/-- What is read of a stored instant. -/
def reading (t : Instant) : Reading where
  date := t.date
  hour := t.hour
  minute := t.minute
  second := t.second
  fraction := t.fraction
  offset := 0

theorem Dated.readStrict_stamp (h : t.Dated) :
    readStrict t.stamp.toList = some (t.reading, []) := by
  have hmonth : t.date.month < 10 ^ 2 := by have := t.month_le; omega
  have hday : t.date.day < 10 ^ 2 := by have : t.date.day ≤ 31 := Date.day_ofDay_le t.day; omega
  have hhour : t.hour < 10 ^ 2 := by have := t.hour_lt; omega
  have hminute : t.minute < 10 ^ 2 := by have := t.minute_lt; omega
  have hsecond : t.second < 10 ^ 2 := by have := t.second_le; omega
  rw [h.toList_stamp]
  -- one step for each field, and one for each mark between two fields
  refine Option.bind_eq_some_iff.2 ⟨_, readFixed_digits h.year_lt _, ?_⟩
  refine Option.bind_eq_some_iff.2 ⟨_, rfl, ?_⟩
  refine Option.bind_eq_some_iff.2 ⟨_, readFixed_digits hmonth _, ?_⟩
  refine Option.bind_eq_some_iff.2 ⟨_, rfl, ?_⟩
  refine Option.bind_eq_some_iff.2 ⟨_, readFixed_digits hday _, ?_⟩
  refine Option.bind_eq_some_iff.2 ⟨_, rfl, ?_⟩
  refine Option.bind_eq_some_iff.2 ⟨_, readFixed_digits hhour _, ?_⟩
  refine Option.bind_eq_some_iff.2 ⟨_, rfl, ?_⟩
  refine Option.bind_eq_some_iff.2 ⟨_, readFixed_digits hminute _, ?_⟩
  refine Option.bind_eq_some_iff.2 ⟨_, rfl, ?_⟩
  refine Option.bind_eq_some_iff.2 ⟨_, readFixed_digits hsecond _, ?_⟩
  refine Option.bind_eq_some_iff.2 ⟨_, readFraction_fractionChars h.fraction_lt _, ?_⟩
  refine Option.bind_eq_some_iff.2 ⟨_, readOffset_zeroOffset, ?_⟩
  simp [reading, h.coe_year]

theorem seconds_eq (t : Instant) :
    (t.date.toDay - epochDay) * 86400 +
      (t.hour * 3600 + t.minute * 60 + t.secondOfDay % 60 : Nat) = t.seconds := by
  have htime : t.hour * 3600 + t.minute * 60 + t.secondOfDay % 60 = t.secondOfDay := by
    unfold hour minute
    omega
  rw [htime, date, Date.toDay_ofDay]
  unfold day secondOfDay
  omega

theorem Dated.instant?_reading (h : t.Dated) : t.reading.instant? = some t := by
  have hknown : isKnownYear t.date.year = true := by
    have := h.year_nonneg
    have := h.year_le
    simp only [isKnownYear, Bool.and_eq_true, decide_eq_true_eq]
    omega
  have hguard : t.reading.date.exists? = true ∧ isKnownYear t.reading.date.year = true ∧
      t.reading.hour ≤ 23 ∧ t.reading.minute ≤ 59 ∧ t.reading.second ≤ 60 :=
    ⟨Date.exists?_ofDay t.day, hknown, Nat.le_of_lt_succ t.hour_lt, Nat.le_of_lt_succ t.minute_lt,
      t.second_le⟩
  have hfound : ∀ second nanos : Nat, second = t.secondOfDay % 60 → nanos = t.nanos →
      (⟨(t.date.toDay - epochDay) * 86400 + (t.hour * 3600 + t.minute * 60 + second : Nat) - 0,
        nanos⟩ : Instant) = t := by
    rintro second nanos rfl rfl
    rw [t.seconds_eq, sub_zero]
  unfold Reading.instant?
  rw [if_pos hguard]
  rcases h.second_eq with ⟨-, hsecond, hfraction⟩ | ⟨hleap, hsecond, hfraction⟩
  · have hne : t.second ≠ 60 := by omega
    have ht := hfound t.second (t.fraction + 0) hsecond hfraction
    simp only [reading, hne, if_false, ht, hknown, if_true]
  · have ht := hfound 59 (t.fraction + nanosPerSecond) hsecond.symm hfraction
    simp only [reading, hleap, if_true, ht, hknown]

/-- A stored instant is read back as it was. -/
theorem Dated.ofStamp?_stamp (h : t.Dated) : ofStamp? t.stamp = some t := by
  simp [ofStamp?, h.readStrict_stamp, h.instant?_reading]

end IdentityDocs.Instant
