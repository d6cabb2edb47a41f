import IdentityDocs.Proofs.Time.Stamp

/-!
# The order of stored instants

Stored instants of the years 0 to 9999 are in the order of time if they are compared as texts, from
the first character on. Date and time are fields of fixed width, so the first field that differs
decides. Fractions have different widths: the offset that follows begins with a character below all
digits, and therefore a fraction comes before every longer one that continues it.
-/

namespace IdentityDocs.Time

/-! ## Digits -/

/-- Of two lists the first place where they differ decides, whatever follows. -/
theorem append_lt_append {l m r s : List Char} (hlength : l.length = m.length) (h : l < m) :
    l ++ r < m ++ s := by
  induction l generalizing m with
  | nil =>
    rw [List.length_nil] at hlength
    rw [List.length_eq_zero_iff.1 hlength.symm] at h
    exact absurd h (List.not_lt_nil [])
  | cons c l ih =>
    cases m with
    | nil => exact absurd h (List.not_lt_nil _)
    | cons d m =>
      rw [List.cons_append, List.cons_append, List.cons_lt_cons_iff]
      rw [List.length_cons, List.length_cons, Nat.add_right_cancel_iff] at hlength
      rcases List.cons_lt_cons_iff.1 h with hlt | ⟨rfl, hlt⟩
      · exact .inl hlt
      · exact .inr ⟨rfl, ih hlength hlt⟩

theorem digits_succ_eq_cons (width n : Nat) :
    digits (width + 1) n = Nat.digitChar (n / 10 ^ width % 10) :: digits width n := by
  induction width generalizing n with
  | zero => simp [digits]
  | succ width ih =>
    rw [digits, ih, List.cons_append, Nat.div_div_eq_div_mul, ← pow_succ', digits]

theorem digits_mod (width n : Nat) : digits width (n % 10 ^ width) = digits width n := by
  induction width generalizing n with
  | zero => rfl
  | succ width ih =>
    have hdiv : n % 10 ^ (width + 1) / 10 = n / 10 % 10 ^ width := by
      rw [pow_succ', Nat.mod_mul_right_div_self]
    have hmod : n % 10 ^ (width + 1) % 10 = n % 10 :=
      Nat.mod_mod_of_dvd n (dvd_pow_self 10 width.succ_ne_zero)
    rw [digits, hdiv, hmod, ih, digits]

theorem digitChar_lt {a b : Nat} (hb : b < 10) (h : a < b) : Nat.digitChar a < Nat.digitChar b := by
  rw [Char.lt_def, UInt32.lt_iff_toNat_lt]
  change (Nat.digitChar a).toNat < (Nat.digitChar b).toNat
  rw [Nat.toNat_digitChar_of_lt_ten (h.trans hb), Nat.toNat_digitChar_of_lt_ten hb]
  omega

/-- Digits after a point are in the order of the fractions that they denote. -/
theorem digits_lt_digits {width width' m n : Nat} (hm : m < 10 ^ width) (hn : n < 10 ^ width')
    (h : m * 10 ^ width' < n * 10 ^ width) : digits width m < digits width' n := by
  induction width generalizing width' m n with
  | zero =>
    cases width' with
    | zero => simp at hm hn; simp [hm, hn] at h
    | succ width' =>
      rw [digits_succ_eq_cons]
      exact List.nil_lt_cons _ _
  | succ width ih =>
    cases width' with
    | zero =>
      rw [pow_zero, Nat.lt_one_iff] at hn
      rw [hn, zero_mul] at h
      exact absurd h (Nat.not_lt_zero _)
    | succ width' =>
      rw [digits_succ_eq_cons, digits_succ_eq_cons, List.cons_lt_cons_iff]
      have hpos : 0 < 10 ^ width := by positivity
      have hpos' : 0 < 10 ^ width' := by positivity
      have hfirst : m / 10 ^ width < 10 := Nat.div_lt_of_lt_mul (by rwa [← pow_succ])
      have hfirst' : n / 10 ^ width' < 10 := Nat.div_lt_of_lt_mul (by rwa [← pow_succ])
      rw [Nat.mod_eq_of_lt hfirst, Nat.mod_eq_of_lt hfirst']
      have hsplit := Nat.div_add_mod m (10 ^ width)
      have hsplit' := Nat.div_add_mod n (10 ^ width')
      have hrest := Nat.mod_lt m hpos
      have hrest' := Nat.mod_lt n hpos'
      rw [← digits_mod width m, ← digits_mod width' n]
      generalize m / 10 ^ width = a at *
      generalize n / 10 ^ width' = b at *
      generalize m % 10 ^ width = r at *
      generalize n % 10 ^ width' = s at *
      have hmul : m * 10 ^ width' < n * 10 ^ width := by
        rw [pow_succ', pow_succ'] at h
        nlinarith
      rcases Nat.lt_trichotomy a b with hlt | rfl | hgt
      · exact .inl (digitChar_lt hfirst' hlt)
      · refine .inr ⟨rfl, ih hrest hrest' ?_⟩
        nlinarith
      · have hbelow : n * 10 ^ width < a * 10 ^ width' * 10 ^ width := by
          refine Nat.mul_lt_mul_of_pos_right ?_ hpos
          nlinarith
        have habove : a * 10 ^ width * 10 ^ width' ≤ m * 10 ^ width' :=
          Nat.mul_le_mul_right _ (by nlinarith)
        nlinarith

/-- Fields of one width are in the order of their numbers; what follows decides between equal
ones. -/
theorem field_lt_field {width m n : Nat} {r s : List Char} (hm : m < 10 ^ width)
    (hn : n < 10 ^ width) (h : m < n ∨ m = n ∧ r < s) :
    digits width m ++ r < digits width n ++ s := by
  rcases h with hlt | ⟨rfl, hlt⟩
  · have hpos : 0 < 10 ^ width := by positivity
    refine append_lt_append (by simp) (digits_lt_digits hm hn ?_)
    exact Nat.mul_lt_mul_of_pos_right hlt hpos
  · exact List.append_left_lt hlt

/-- What ends in a character below the digits comes before every continuation by digits. -/
theorem append_plus_lt {l m : List Char} (r : List Char) (hm : ∀ c ∈ m, '+' < c) (h : l < m) :
    l ++ '+' :: r < m ++ '+' :: r := by
  induction l generalizing m with
  | nil =>
    cases m with
    | nil => exact absurd h (List.not_lt_nil _)
    | cons d m =>
      rw [List.nil_append, List.cons_append, List.cons_lt_cons_iff]
      exact .inl (hm d (by simp))
  | cons c l ih =>
    cases m with
    | nil => exact absurd h (List.not_lt_nil _)
    | cons d m =>
      rw [List.cons_append, List.cons_append, List.cons_lt_cons_iff]
      rcases List.cons_lt_cons_iff.1 h with hlt | ⟨rfl, hlt⟩
      · exact .inl hlt
      · exact .inr ⟨rfl, ih (fun e he => hm e (List.mem_cons_of_mem _ he)) hlt⟩

theorem plus_lt_of_isDigit {c : Char} (h : c.isDigit = true) : '+' < c := by
  simp only [Char.isDigit, Bool.and_eq_true, decide_eq_true_eq, ge_iff_le,
    UInt32.le_iff_toNat_le] at h
  rw [Char.lt_def, UInt32.lt_iff_toNat_lt]
  exact lt_of_lt_of_le (by decide) h.1

/-- An earlier fraction is written before a later one, though their widths may differ. -/
theorem fractionChars_lt {m n : Nat} (hn : n < 1000000000) (h : m < n) (r : List Char) :
    fractionChars m ++ '+' :: r < fractionChars n ++ '+' :: r := by
  obtain ⟨width', n', -, hle', hn', hvalue', hchars'⟩ :=
    exists_fractionChars_eq (Nat.ne_of_gt (Nat.zero_lt_of_lt h)) hn
  have hdigits : ∀ c ∈ fractionChars n, '+' < c := by
    intro c hc
    rw [hchars'] at hc
    rcases List.mem_cons.1 hc with rfl | hc
    · decide
    · exact plus_lt_of_isDigit (isDigit_of_mem_digits hc)
  refine append_plus_lt r hdigits ?_
  rw [hchars']
  by_cases hm : m = 0
  · rw [hm]
    exact List.nil_lt_cons _ _
  · obtain ⟨width, m', -, hle, hm', hvalue, hchars⟩ := exists_fractionChars_eq hm (h.trans hn)
    rw [hchars, List.cons_lt_cons_iff]
    refine .inr ⟨rfl, digits_lt_digits hm' hn' ?_⟩
    -- both sides times the power of ten that the two fractions leave out
    have hpow : ∀ w, w ≤ 9 → 10 ^ (9 - w) * 10 ^ w = 10 ^ 9 := fun w hw => by
      rw [← pow_add, Nat.sub_add_cancel hw]
    have hscaled : m' * 10 ^ 9 = m * 10 ^ width := by
      rw [← hpow width hle, ← mul_assoc, hvalue]
    have hscaled' : n' * 10 ^ 9 = n * 10 ^ width' := by
      rw [← hpow width' hle', ← mul_assoc, hvalue']
    refine Nat.lt_of_mul_lt_mul_right (a := 10 ^ 9) ?_
    calc m' * 10 ^ width' * 10 ^ 9 = m * (10 ^ width * 10 ^ width') := by
          rw [mul_right_comm, hscaled, mul_assoc]
      _ < n * (10 ^ width * 10 ^ width') := Nat.mul_lt_mul_of_pos_right h (by positivity)
      _ = n' * 10 ^ width * 10 ^ 9 := by
          rw [mul_right_comm, hscaled', mul_assoc, mul_comm (10 ^ width)]

end IdentityDocs.Time

namespace IdentityDocs.Instant

open Time

/-- An instant comes before another. Within one second, a leap second comes last. -/
def Before (a b : Instant) : Prop :=
  a.seconds < b.seconds ∨ a.seconds = b.seconds ∧ a.nanos < b.nanos

theorem before_trichotomy (a b : Instant) : a.Before b ∨ a = b ∨ b.Before a := by
  cases a
  cases b
  simp only [Before, mk.injEq]
  omega

variable {a b : Instant}

theorem Before.asymm (h : a.Before b) : ¬ b.Before a := by
  unfold Before at *
  omega

/-- Of two instants the earlier has the earlier date, or the earlier time of the same day. -/
theorem Before.fields (ha : a.Dated) (hb : b.Dated) (h : a.Before b) :
    a.date.Before b.date ∨ a.date = b.date ∧ (a.hour < b.hour ∨ a.hour = b.hour ∧
      (a.minute < b.minute ∨ a.minute = b.minute ∧
        (a.second < b.second ∨ a.second = b.second ∧ a.fraction < b.fraction))) := by
  unfold Before at h
  by_cases hday : a.day < b.day
  · exact .inl (Date.before_ofDay hday)
  · have hsame : a.day = b.day := by unfold day at *; omega
    refine .inr ⟨by unfold date; rw [hsame], ?_⟩
    have htime : a.secondOfDay < b.secondOfDay ∨
        a.secondOfDay = b.secondOfDay ∧ a.nanos < b.nanos := by
      unfold day at hsame
      unfold secondOfDay
      omega
    have hsecond := ha.second_eq
    have hsecond' := hb.second_eq
    unfold hour minute
    omega

/-- Of two stored instants the earlier is the smaller text. -/
theorem Before.stamp_lt (ha : a.Dated) (hb : b.Dated) (h : a.Before b) : a.stamp < b.stamp := by
  have hmonth : ∀ t : Instant, t.date.month < 10 ^ 2 := fun t => by have := t.month_le; omega
  have hday : ∀ t : Instant, t.date.day < 10 ^ 2 := fun t => by
    have : t.date.day ≤ 31 := Date.day_ofDay_le t.day
    omega
  have hhour : ∀ t : Instant, t.hour < 10 ^ 2 := fun t => by have := t.hour_lt; omega
  have hminute : ∀ t : Instant, t.minute < 10 ^ 2 := fun t => by have := t.minute_lt; omega
  have hsecond : ∀ t : Instant, t.second < 10 ^ 2 := fun t => by have := t.second_le; omega
  have hmark : ∀ {c : Char} {r s : List Char}, r < s → c :: r < c :: s := fun h =>
    List.cons_lt_cons_iff.2 (.inr ⟨rfl, h⟩)
  rw [String.lt_iff, ha.toList_stamp, hb.toList_stamp]
  have hcoe := ha.coe_year
  have hcoe' := hb.coe_year
  apply field_lt_field ha.year_lt hb.year_lt
  rcases h.fields ha hb with (hyear | ⟨hyear, hdate⟩) | ⟨hdate, htime⟩
  · exact .inl (by omega)
  · refine .inr ⟨by rw [hyear], hmark (field_lt_field (hmonth a) (hmonth b) ?_)⟩
    rcases hdate with hlt | ⟨heq, hlt⟩
    · exact .inl hlt
    · exact .inr ⟨heq, hmark (field_lt_field (hday a) (hday b) (.inl hlt))⟩
  · rw [hdate]
    refine .inr ⟨rfl, hmark (field_lt_field (hmonth b) (hmonth b) (.inr ⟨rfl, ?_⟩))⟩
    refine hmark (field_lt_field (hday b) (hday b) (.inr ⟨rfl, ?_⟩))
    refine hmark (field_lt_field (hhour a) (hhour b) (htime.imp_right (And.imp_right fun h => ?_)))
    refine hmark (field_lt_field (hminute a) (hminute b) (h.imp_right (And.imp_right fun h => ?_)))
    refine hmark (field_lt_field (hsecond a) (hsecond b) (h.imp_right (And.imp_right fun h => ?_)))
    exact fractionChars_lt hb.fraction_lt h _

/-- Stored instants are in the order of time. -/
theorem stamp_lt_stamp_iff (ha : a.Dated) (hb : b.Dated) : a.stamp < b.stamp ↔ a.Before b := by
  refine ⟨fun hlt => ?_, fun h => h.stamp_lt ha hb⟩
  rcases a.before_trichotomy b with h | rfl | h
  · exact h
  · exact absurd hlt (String.lt_irrefl _)
  · exact absurd hlt (String.lt_asymm (h.stamp_lt hb ha))

end IdentityDocs.Instant
