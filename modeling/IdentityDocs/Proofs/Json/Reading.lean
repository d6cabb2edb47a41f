import IdentityDocs.Proofs.Json.Grammar
import Mathlib.Data.List.DropRight
import Mathlib.Tactic

/-!
# Every JSON text is read

The reader accepts all that the grammar derives, and answers with the value that is spelled. Each
reading lemma speaks of a text with anything after it that does not continue it: `readString`
stops at the closing quote, the digits of a number at what is no digit, and a value is followed by
white space, a comma, a closing bracket or nothing. A value is paid for with twice the length of its
text, which is what the reader is given.
-/

namespace IdentityDocs.Json

/-! ## White space -/

theorem skipBlanks_append {a : List Char} (h : IsSpace a) (cs : List Char) :
    skipBlanks (a ++ cs) = skipBlanks cs := by
  unfold skipBlanks
  refine List.dropWhile_append_of_pos fun c hc => ?_
  rcases h c hc with rfl | rfl | rfl | rfl <;> rfl

theorem skipBlanks_skipBlanks (cs : List Char) : skipBlanks (skipBlanks cs) = skipBlanks cs :=
  List.dropWhile_idempotent _ _

/-- White space in front of a value does not count. -/
theorem readValue_skipBlanks (fuel : Nat) (cs : List Char) :
    readValue fuel (skipBlanks cs) = readValue fuel cs := by
  cases fuel with
  | zero => rfl
  | succ fuel => simp only [readValue, skipBlanks_skipBlanks]

theorem readItems_skipBlanks (fuel : Nat) (cs : List Char) :
    readItems fuel (skipBlanks cs) = readItems fuel cs := by
  cases fuel with
  | zero => rfl
  | succ fuel => simp only [readItems, readValue_skipBlanks]

theorem readMembers_skipBlanks (fuel : Nat) (cs : List Char) :
    readMembers fuel (skipBlanks cs) = readMembers fuel cs := by
  cases fuel with
  | zero => rfl
  | succ fuel => simp only [readMembers, skipBlanks_skipBlanks]

theorem readValue_append {a : List Char} (h : IsSpace a) (fuel : Nat) (cs : List Char) :
    readValue fuel (a ++ cs) = readValue fuel cs := by
  rw [← readValue_skipBlanks, skipBlanks_append h, readValue_skipBlanks]

/-! ## Strings -/

theorem hexDigit?_eq {c : Char} {value : Nat} (h : HexDigit c value) :
    hexDigit? c = some value := by
  have hcode (a b : Char) : a ≤ b ↔ a.toNat ≤ b.toNat := by
    rw [Char.le_def, UInt32.le_iff_toNat_le]
    rfl
  have hbounds : '0'.toNat = 48 ∧ '9'.toNat = 57 ∧ 'a'.toNat = 97 ∧ 'f'.toNat = 102 ∧
      'A'.toNat = 65 ∧ 'F'.toNat = 70 := by decide
  obtain ⟨h0, h9, ha, hf, hA, hF⟩ := hbounds
  simp only [HexDigit, hexDigit?, hcode, h0, h9, ha, hf, hA, hF] at h ⊢
  rcases h with ⟨hlow, hhigh, hvalue⟩ | ⟨hlow, hhigh, hvalue⟩ | ⟨hlow, hhigh, hvalue⟩
  · rw [if_pos ⟨hlow, hhigh⟩, hvalue, Nat.add_sub_cancel_left]
  · rw [if_neg (by omega), if_pos ⟨hlow, hhigh⟩, hvalue, Nat.add_sub_cancel_left]
  · rw [if_neg (by omega), if_neg (by omega), if_pos ⟨hlow, hhigh⟩, hvalue,
      Nat.add_sub_cancel_left]

theorem readUnit_eq {digits : List Char} {unit : Nat} (h : UnitText digits unit)
    (rest : List Char) : readUnit (digits ++ rest) = some (unit, rest) := by
  obtain ⟨a, b, c, d, va, vb, vc, vd, rfl, ha, hb, hc, hd, rfl⟩ := h
  simp only [List.cons_append, List.nil_append, readUnit, hexDigit?_eq ha, hexDigit?_eq hb,
    hexDigit?_eq hc, hexDigit?_eq hd, Option.bind_eq_bind, Option.bind_some, Option.pure_def]

theorem readUnicodeEscape_unit {digits : List Char} {n : Nat} (h : UnitText digits n)
    (hhigh : ¬ IsHigh n) (hlow : ¬ IsLow n) (rest : List Char) :
    readUnicodeEscape (digits ++ rest) = some (some (Char.ofNat n), rest) := by
  unfold IsHigh at hhigh
  unfold IsLow at hlow
  simp only [readUnicodeEscape, readUnit_eq h, Option.bind_eq_bind, Option.bind_some,
    if_neg hhigh, if_neg hlow, Option.pure_def]

theorem readUnicodeEscape_pair {digits digits' : List Char} {high low : Nat}
    (h : UnitText digits high) (hhigh : IsHigh high) (h' : UnitText digits' low) (hlow : IsLow low)
    (rest : List Char) :
    readUnicodeEscape (digits ++ '\\' :: 'u' :: (digits' ++ rest)) =
      some (some (Char.ofNat (pairCode high low)), rest) := by
  unfold IsHigh at hhigh
  unfold IsLow at hlow
  simp only [readUnicodeEscape, readUnit_eq h, Option.bind_eq_bind, Option.bind_some, if_pos hhigh,
    readUnit_eq h', if_pos hlow]
  rfl

theorem readUnicodeEscape_low {digits : List Char} {n : Nat} (h : UnitText digits n)
    (hlow : IsLow n) (rest : List Char) :
    readUnicodeEscape (digits ++ rest) = some (none, rest) := by
  have hhigh : ¬ (0xd800 ≤ n ∧ n < 0xdc00) := by
    unfold IsLow at hlow
    omega
  unfold IsLow at hlow
  simp only [readUnicodeEscape, readUnit_eq h, Option.bind_eq_bind, Option.bind_some,
    if_neg hhigh, if_pos hlow, Option.pure_def]

/-- Where the rest of a string begins with an escaped unit, it is one. -/
theorem StringText.exists_unit {cs rest more : List Char} {s : Option (List Char)}
    (h : StringText cs s) (hcs : cs ++ '"' :: rest = '\\' :: 'u' :: more) :
    ∃ digits n tail, UnitText digits n ∧ cs = '\\' :: 'u' :: (digits ++ tail) := by
  cases h with
  | nil => cases hcs
  | plain hquote hbackslash hcontrol h => exact absurd (List.cons.inj hcs).1 hbackslash
  | short hmem h =>
    obtain ⟨-, htail⟩ := List.cons.inj hcs
    obtain ⟨rfl, -⟩ := List.cons.inj htail
    exact absurd hmem (by simp [shortEscapes])
  | unit hdigits hhigh hlow h => exact ⟨_, _, _, hdigits, rfl⟩
  | pair hdigits hhigh hdigits' hlow h => exact ⟨_, _, _, hdigits, rfl⟩
  | low hdigits hlow h => exact ⟨_, _, _, hdigits, rfl⟩
  | high hdigits hhigh halone h => exact ⟨_, _, _, hdigits, rfl⟩

theorem readUnicodeEscape_high {digits cs : List Char} {n : Nat} {s : Option (List Char)}
    (h : UnitText digits n) (hhigh : IsHigh n) (hcs : StringText cs s)
    (halone : ∀ digits' rest m, cs = '\\' :: 'u' :: (digits' ++ rest) → UnitText digits' m →
      ¬ IsLow m) (rest : List Char) :
    readUnicodeEscape (digits ++ (cs ++ '"' :: rest)) = some (none, cs ++ '"' :: rest) := by
  unfold IsHigh at hhigh
  simp only [readUnicodeEscape, readUnit_eq h, Option.bind_eq_bind, Option.bind_some, if_pos hhigh]
  split
  case h_1 more hmore =>
    obtain ⟨digits', m, tail, hunit, rfl⟩ := hcs.exists_unit hmore
    have hnot := halone digits' tail m rfl hunit
    unfold IsLow at hnot
    obtain rfl : more = digits' ++ (tail ++ '"' :: rest) := by simpa using hmore.symm
    simp only [readUnit_eq hunit, Option.bind_some, if_neg hnot, Option.pure_def]
  case h_2 => rfl

theorem readEscape_u (cs : List Char) : readEscape ('u' :: cs) = readUnicodeEscape cs := rfl

theorem readEscape_short {x c : Char} (h : (x, c) ∈ shortEscapes) (rest : List Char) :
    readEscape (x :: rest) = some (some c, rest) := by
  simp only [shortEscapes, List.mem_cons, Prod.mk.injEq, List.not_mem_nil, or_false] at h
  rcases h with ⟨rfl, rfl⟩ | ⟨rfl, rfl⟩ | ⟨rfl, rfl⟩ | ⟨rfl, rfl⟩ | ⟨rfl, rfl⟩ | ⟨rfl, rfl⟩ |
    ⟨rfl, rfl⟩ | ⟨rfl, rfl⟩ <;> rfl

theorem consIfAll_some {α : Type} (a : α) (rest : Option (List α)) :
    consIfAll (some a) rest = rest.map (a :: ·) := by
  cases rest <;> rfl

/-- The text is read up to the quote that closes the string. -/
def ReadToQuote (cs : List Char) (s : Option (List Char)) : Prop :=
  ∀ fuel rest, cs.length < fuel → readString fuel (cs ++ '"' :: rest) = some (s, rest)

/-- An escape is read, and then the rest of the string. -/
theorem ReadToQuote.escape {cs tail : List Char} {c : Option Char} {s : Option (List Char)}
    (hread : ∀ rest, readEscape (cs ++ '"' :: rest) = some (c, tail ++ '"' :: rest))
    (hlength : tail.length ≤ cs.length) (h : ReadToQuote tail s) :
    ReadToQuote ('\\' :: cs) (consIfAll c s) := by
  intro fuel rest hfuel
  rw [List.length_cons] at hfuel
  obtain ⟨fuel, rfl⟩ : ∃ k, fuel = k + 1 := ⟨fuel - 1, by omega⟩
  rw [List.cons_append, readString, hread]
  simp only [Option.bind_eq_bind, Option.bind_some, h fuel rest (by omega)]
  rfl

theorem ReadToQuote.plain {c : Char} {cs : List Char} {s : Option (List Char)} (hquote : c ≠ '"')
    (hbackslash : c ≠ '\\') (hcontrol : 0x20 ≤ c.toNat) (h : ReadToQuote cs s) :
    ReadToQuote (c :: cs) (s.map (c :: ·)) := by
  intro fuel rest hfuel
  rw [List.length_cons] at hfuel
  obtain ⟨fuel, rfl⟩ : ∃ k, fuel = k + 1 := ⟨fuel - 1, by omega⟩
  rw [List.cons_append, readString, if_neg (by omega), h fuel rest (by omega), ← consIfAll_some]
  · rfl
  · exact hquote
  · exact hbackslash

/-- What stands between the quotes of a string is read. -/
theorem StringText.readToQuote {cs : List Char} {s : Option (List Char)} (h : StringText cs s) :
    ReadToQuote cs s := by
  induction h with
  | nil =>
    intro fuel rest hfuel
    obtain ⟨fuel, rfl⟩ := Nat.exists_eq_add_of_lt hfuel
    rfl
  | plain hquote hbackslash hcontrol _ ih => exact ih.plain hquote hbackslash hcontrol
  | short hmem _ ih =>
    rw [← consIfAll_some]
    exact ih.escape (fun rest => readEscape_short hmem _) (by simp)
  | unit hdigits hhigh hlow _ ih =>
    rw [← consIfAll_some]
    refine ih.escape (fun rest => ?_) (by simp; omega)
    simpa [readEscape_u] using readUnicodeEscape_unit hdigits hhigh hlow _
  | pair hdigits hhigh hdigits' hlow _ ih =>
    rw [← consIfAll_some]
    refine ih.escape (fun rest => ?_) (by simp; omega)
    simpa [readEscape_u] using readUnicodeEscape_pair hdigits hhigh hdigits' hlow _
  | @low digits cs n s hdigits hlow _ ih =>
    have hnone : consIfAll (none : Option Char) s = none := rfl
    rw [← hnone]
    refine ih.escape (fun rest => ?_) (by simp; omega)
    simpa [readEscape_u] using readUnicodeEscape_low hdigits hlow _
  | @high digits cs n s hdigits hhigh halone hcs ih =>
    have hnone : consIfAll (none : Option Char) s = none := rfl
    rw [← hnone]
    refine ih.escape (fun rest => ?_) (by simp; omega)
    simpa [readEscape_u] using readUnicodeEscape_high hdigits hhigh hcs halone rest

/-! ## Numbers -/

/-- The text does not go on with a digit. -/
def NoDigit (rest : List Char) : Prop := ∀ c, rest.head? = some c → c.isDigit = false

theorem readDigits_append {digits rest : List Char} (h : ∀ c ∈ digits, c.isDigit = true)
    (hrest : NoDigit rest) : readDigits (digits ++ rest) = (digits, rest) := by
  have htake : rest.takeWhile Char.isDigit = [] := by
    cases rest with
    | nil => rfl
    | cons c rest => simp [hrest c rfl]
  have hdrop : rest.dropWhile Char.isDigit = rest := by
    cases rest with
    | nil => rfl
    | cons c rest => simp [hrest c rfl]
  rw [readDigits, List.takeWhile_append_of_pos h, List.dropWhile_append_of_pos h, htake, hdrop,
    List.append_nil]

theorem readWhole_append {integral rest : List Char} (h : WholeText integral)
    (hrest : NoDigit rest) : readWhole (integral ++ rest) = some (integral, rest) := by
  obtain ⟨⟨hne, hdigits⟩, hzero⟩ := h
  cases integral with
  | nil => exact absurd rfl hne
  | cons d digits =>
    by_cases hd : d = '0'
    · subst hd
      obtain rfl : digits = [] := by simpa using hzero rfl
      rfl
    · rw [List.cons_append]
      unfold readWhole
      split
      case h_1 heq => exact absurd (List.cons.inj heq).1 hd
      case h_2 =>
        rw [← List.cons_append, readDigits_append hdigits hrest]

theorem readFraction_append {text fraction rest : List Char} (h : FractionText text fraction)
    (hrest : NoDigit rest) (hpoint : rest.head? ≠ some '.') :
    readFraction (text ++ rest) = some (fraction, rest) := by
  rcases h with ⟨rfl, rfl⟩ | ⟨rfl, hne, hdigits⟩
  · unfold readFraction
    split
    case h_1 heq => exact absurd (congrArg List.head? heq) hpoint
    case h_2 => rfl
  · rw [List.cons_append, readFraction, readDigits_append hdigits hrest]
    cases fraction with
    | nil => exact absurd rfl hne
    | cons d digits => rfl

theorem readExponent_append {text rest : List Char} {exponent : Option Int}
    (h : ExponentText text exponent) (hrest : NoDigit rest) (hmark : rest.head? ≠ some 'e')
    (hmark' : rest.head? ≠ some 'E') : readExponent (text ++ rest) = some (exponent, rest) := by
  cases h with
  | absent =>
    cases rest with
    | nil => rfl
    | cons c rest =>
      have hc : ¬ (c = 'e' ∨ c = 'E') := by
        rintro (rfl | rfl)
        · exact hmark rfl
        · exact hmark' rfl
      unfold readExponent
      exact if_neg hc
  | @present mark sign digits negative hletter hsign hdigits =>
    obtain ⟨hne, hdigits⟩ := hdigits
    have hread := readDigits_append hdigits hrest
    obtain ⟨d, more, rfl⟩ := List.exists_cons_of_ne_nil hne
    rw [List.cons_append] at hread
    rw [List.cons_append, List.append_assoc, List.cons_append]
    unfold readExponent
    simp only [if_pos hletter]
    cases hsign with
    | absent =>
      have hd : d.isDigit = true := hdigits d List.mem_cons_self
      -- a digit is no sign
      have hminus : d ≠ '-' := fun heq => absurd (heq ▸ hd) (by decide)
      have hplus : d ≠ '+' := fun heq => absurd (heq ▸ hd) (by decide)
      simp [hminus, hplus, hread, signed]
    | plus => simp [hread, signed]
    | minus => simp [hread, signed]

/-- What comes next ends a value: white space, a comma, a closing bracket, or nothing. -/
def Ends (rest : List Char) : Prop :=
  ∀ c, rest.head? = some c → c ∈ [' ', '\n', '\t', '\r', ',', ']', '\x7d']

theorem Ends.head?_ne {rest : List Char} (h : Ends rest) {c : Char}
    (hc : c ∉ [' ', '\n', '\t', '\r', ',', ']', '\x7d']) : rest.head? ≠ some c :=
  fun heq => hc (h c heq)

theorem Ends.noDigit {rest : List Char} (h : Ends rest) : NoDigit rest := by
  intro c hc
  have hmem := h c hc
  simp only [List.mem_cons, List.not_mem_nil, or_false] at hmem
  rcases hmem with rfl | rfl | rfl | rfl | rfl | rfl | rfl <;> rfl

/-- What follows the exponent, if anything does, follows the number. -/
theorem ExponentText.head? {text rest : List Char} {exponent : Option Int}
    (h : ExponentText text exponent) (c : Char) (hc : (text ++ rest).head? = some c) :
    c = 'e' ∨ c = 'E' ∨ rest.head? = some c := by
  cases h with
  | absent => exact .inr (.inr hc)
  | present hletter =>
    obtain rfl := Option.some.inj hc
    exact hletter.imp_right .inl

theorem FractionText.head? {text fraction rest : List Char} (h : FractionText text fraction)
    (c : Char) (hc : (text ++ rest).head? = some c) : c = '.' ∨ rest.head? = some c := by
  rcases h with ⟨rfl, -⟩ | ⟨rfl, -⟩
  · exact .inr hc
  · exact .inl (Option.some.inj hc).symm

/-- A number is read up to what ends it. -/
theorem readNumber_append {cs rest : List Char} {n : Number} (h : NumberText cs n)
    (hrest : Ends rest) : readNumber (cs ++ rest) = some (n, rest) := by
  obtain @⟨sign, integral, text, fraction, text', negative, exponent, hsign, hplus, hintegral,
    hfraction, hexponent⟩ := h
  have hafterFraction : NoDigit (text' ++ rest) := by
    intro c hc
    rcases hexponent.head? c hc with rfl | rfl | hc
    · rfl
    · rfl
    · exact hrest.noDigit c hc
  have hafterIntegral : NoDigit (text ++ (text' ++ rest)) := by
    intro c hc
    rcases hfraction.head? c hc with rfl | hc
    · rfl
    · exact hafterFraction c hc
  have hpoint : (text' ++ rest).head? ≠ some '.' := by
    intro hc
    rcases hexponent.head? _ hc with hc | hc | hc
    · exact absurd hc (by decide)
    · exact absurd hc (by decide)
    · exact hrest.head?_ne (by decide) hc
  have hwhole := readWhole_append hintegral hafterIntegral
  have hfractionRead := readFraction_append hfraction hafterFraction hpoint
  have hmark : rest.head? ≠ some 'e' := hrest.head?_ne (by decide)
  have hmark' : rest.head? ≠ some 'E' := hrest.head?_ne (by decide)
  have hexponentRead := readExponent_append hexponent hrest.noDigit hmark hmark'
  obtain ⟨d, digits, hd⟩ := List.exists_cons_of_ne_nil hintegral.1.1
  have hminus : d ≠ '-' := by
    rintro rfl
    exact absurd (hintegral.1.2 '-' (by simp [hd])) (by decide)
  simp only [List.append_assoc]
  unfold readNumber
  cases hsign with
  | plus => exact absurd rfl hplus
  | absent =>
    rw [hd, List.cons_append] at hwhole
    simp only [List.nil_append, hd, List.cons_append]
    split
    case h_1 heq => exact absurd (List.cons.inj heq).1 hminus
    case h_2 =>
      simp only [hwhole, hfractionRead, hexponentRead, Option.bind_eq_bind, Option.bind_some,
        Number.ofParts, signed, Bool.false_eq_true, false_and, if_false]
      split <;> rfl
  | minus =>
    simp only [List.cons_append, List.nil_append, hwhole, hfractionRead, hexponentRead,
      Option.bind_eq_bind, Option.bind_some, Number.ofParts, signed, Int.natCast_eq_zero, if_true]
    split <;> rfl

theorem NumberText.exists_cons {cs : List Char} {n : Number} (h : NumberText cs n) :
    ∃ c more, cs = c :: more ∧ (c = '-' ∨ c.isDigit = true) := by
  obtain @⟨sign, integral, text, fraction, text', negative, exponent, hsign, hplus, hintegral, -,
    -⟩ := h
  cases hsign with
  | plus => exact absurd rfl hplus
  | minus => exact ⟨_, _, rfl, .inl rfl⟩
  | absent =>
    obtain ⟨d, digits, rfl⟩ := List.exists_cons_of_ne_nil hintegral.1.1
    exact ⟨_, _, rfl, .inr (hintegral.1.2 d List.mem_cons_self)⟩

/-! ## Values -/

theorem Ends.of_space {a : List Char} {c : Char} (ha : IsSpace a) (hc : c ∈ [',', ']', '\x7d'])
    (rest : List Char) : Ends (a ++ c :: rest) := by
  intro d hd
  cases a with
  | nil =>
    obtain rfl := Option.some.inj hd
    simp only [List.mem_cons, List.not_mem_nil, or_false] at hc ⊢
    tauto
  | cons e a =>
    obtain rfl := Option.some.inj hd
    rcases ha e List.mem_cons_self with rfl | rfl | rfl | rfl <;> decide

theorem skipBlanks_space {a : List Char} {c : Char} (ha : IsSpace a)
    (hc : c ∈ [',', ']', '\x7d', ':', '"']) (rest : List Char) :
    skipBlanks (a ++ c :: rest) = c :: rest := by
  rw [skipBlanks_append ha]
  revert c
  simp [skipBlanks]

/-- A part of a text is read: a value with anything behind it that ends it, items and members with
the bracket that closes them. -/
def ReadPart : Part → List Char → Prop
  | .value j, cs => ∀ fuel rest, Ends rest → 2 * cs.length ≤ fuel →
    readValue fuel (cs ++ rest) = some (j, rest)
  | .items items, cs => ∀ fuel rest, 2 * cs.length < fuel →
    readItems fuel (cs ++ ']' :: rest) = some (items, rest)
  | .members members, cs => ∀ fuel rest, 2 * cs.length < fuel →
    readMembers fuel (cs ++ '\x7d' :: rest) = some (members, rest)

theorem readValue_number {cs rest : List Char} {n : Number} (h : NumberText cs n)
    (hrest : Ends rest) (fuel : Nat) :
    readValue (fuel + 1) (cs ++ rest) = some (number n, rest) := by
  have hread := readNumber_append h hrest
  obtain ⟨c, more, rfl, hc⟩ := h.exists_cons
  have hne : ∀ d, d ≠ '-' → d.isDigit = false → c ≠ d := by
    rintro d hminus hd rfl
    rcases hc with rfl | hc
    · exact hminus rfl
    · exact absurd hc (by simp [hd])
  have hblank : skipBlanks (c :: (more ++ rest)) = c :: (more ++ rest) := by
    simp [skipBlanks, hne ' ' (by decide) rfl, hne '\n' (by decide) rfl, hne '\t' (by decide) rfl,
      hne '\r' (by decide) rfl]
  rw [List.cons_append] at hread ⊢
  rw [readValue, hblank]
  split
  case h_7 => simp only [hread, Option.bind_eq_bind, Option.bind_some, Option.pure_def]
  all_goals
    rename_i heq
    exact absurd (List.cons.inj heq).1 (hne _ (by decide) rfl)

theorem readValue_array {fuel : Nat} {cs rest : List Char} {items : List Json}
    (hne : ∀ more, skipBlanks cs ≠ ']' :: more) (hitems : readItems fuel cs = some (items, rest)) :
    readValue (fuel + 1) ('[' :: cs) = some (array items, rest) := by
  have hopen : skipBlanks ('[' :: cs) = '[' :: cs := rfl
  rw [← readItems_skipBlanks] at hitems
  rw [readValue, hopen]
  simp only [hitems, Option.bind_eq_bind, Option.bind_some, Option.pure_def]

theorem readValue_object {fuel : Nat} {cs rest : List Char}
    {members : Option (List (String × Json))} (hne : ∀ more, skipBlanks cs ≠ '\x7d' :: more)
    (hmembers : readMembers fuel cs = some (members, rest)) :
    readValue (fuel + 1) ('\x7b' :: cs) = some (members.elim broken object, rest) := by
  have hopen : skipBlanks ('\x7b' :: cs) = '\x7b' :: cs := rfl
  rw [← readMembers_skipBlanks] at hmembers
  rw [readValue, hopen]
  simp only [hmembers, Option.bind_eq_bind, Option.bind_some, Option.pure_def]

theorem readItems_last {fuel : Nat} {cs rest rest' : List Char} {item : Json}
    (hitem : readValue fuel cs = some (item, rest)) (hclose : skipBlanks rest = ']' :: rest') :
    readItems (fuel + 1) cs = some ([item], rest') := by
  simp only [readItems, hitem, hclose, Option.bind_eq_bind, Option.bind_some, Option.pure_def]

theorem readItems_next {fuel : Nat} {cs rest more rest' : List Char} {item : Json}
    {items : List Json} (hitem : readValue fuel cs = some (item, rest))
    (hcomma : skipBlanks rest = ',' :: more) (hitems : readItems fuel more = some (items, rest')) :
    readItems (fuel + 1) cs = some (item :: items, rest') := by
  simp only [readItems, hitem, hcomma, hitems, Option.bind_eq_bind, Option.bind_some,
    Option.pure_def]

theorem consIfAll_map {α β γ : Type} (s : Option α) (f : α → β) (v : γ)
    (members : Option (List (β × γ))) :
    consIfAll (s.map fun a => (f a, v)) members =
      (s.map f).bind fun k => members.map ((k, v) :: ·) := by
  cases s <;> cases members <;> rfl

/-- A key is read up to its colon. -/
theorem KeyText.read {key : List Char} {k : Option String} (h : KeyText key k) (cs : List Char) :
    ∃ inner s rest, skipBlanks (key ++ cs) = '"' :: inner ∧
      readString (inner.length + 1) inner = some (s, rest) ∧ skipBlanks rest = ':' :: cs ∧
      k = s.map String.ofList := by
  obtain ⟨a, inner, b, s, rfl, ha, hinner, hb, rfl⟩ := h
  refine ⟨inner ++ '"' :: (b ++ ':' :: cs), s, b ++ ':' :: cs, ?_,
    hinner.readToQuote _ _ (by simp), skipBlanks_space hb (by decide) cs, rfl⟩
  simpa using skipBlanks_space ha (c := '"') (by decide) (inner ++ '"' :: (b ++ ':' :: cs))

theorem readMembers_last {fuel : Nat} {key cs rest rest' : List Char} {k : Option String}
    {value : Json} (hkey : KeyText key k) (hvalue : readValue fuel cs = some (value, rest))
    (hclose : skipBlanks rest = '\x7d' :: rest') :
    readMembers (fuel + 1) (key ++ cs) = some (k.map fun k => [(k, value)], rest') := by
  obtain ⟨inner, s, afterKey, hquote, hread, hcolon, rfl⟩ := hkey.read cs
  rw [readMembers, hquote]
  simp only [hread, hcolon, hvalue, hclose, Option.bind_eq_bind, Option.bind_some, consIfAll_map,
    Option.map_some, Option.pure_def]
  cases s <;> rfl

theorem readMembers_next {fuel : Nat} {key cs rest more rest' : List Char} {k : Option String}
    {value : Json} {members : Option (List (String × Json))} (hkey : KeyText key k)
    (hvalue : readValue fuel cs = some (value, rest)) (hcomma : skipBlanks rest = ',' :: more)
    (hmembers : readMembers fuel more = some (members, rest')) :
    readMembers (fuel + 1) (key ++ cs) =
      some (k.bind fun k => members.map ((k, value) :: ·), rest') := by
  obtain ⟨inner, s, afterKey, hquote, hread, hcolon, rfl⟩ := hkey.read cs
  rw [readMembers, hquote]
  simp only [hread, hcolon, hvalue, hcomma, hmembers, Option.bind_eq_bind, Option.bind_some,
    consIfAll_map, Option.pure_def]

/-- A value begins with a character that is neither white space nor a closing bracket. -/
theorem Spells.exists_cons {j : Json} {cs : List Char} (h : Spells (.value j) cs) :
    ∃ c more, cs = c :: more ∧ c ∉ [' ', '\n', '\t', '\r', ']'] := by
  cases h with
  | nullText => exact ⟨_, _, rfl, by decide⟩
  | trueText => exact ⟨_, _, rfl, by decide⟩
  | falseText => exact ⟨_, _, rfl, by decide⟩
  | string h => exact ⟨_, _, rfl, by decide⟩
  | emptyArray h => exact ⟨_, _, rfl, by decide⟩
  | array h => exact ⟨_, _, rfl, by decide⟩
  | emptyObject h => exact ⟨_, _, rfl, by decide⟩
  | object h => exact ⟨_, _, rfl, by decide⟩
  | number h =>
    obtain ⟨c, more, rfl, hc⟩ := h.exists_cons
    refine ⟨c, more, rfl, ?_⟩
    intro hmem
    simp only [List.mem_cons, List.not_mem_nil, or_false] at hmem
    rcases hmem with rfl | rfl | rfl | rfl | rfl <;> exact absurd hc (by decide)

/-- Items do not begin with the closing bracket. -/
theorem Spells.items_ne {items : List Json} {cs : List Char} (h : Spells (.items items) cs)
    (rest more : List Char) : skipBlanks (cs ++ rest) ≠ ']' :: more := by
  have hvalue : ∀ {item : Json} {a cs : List Char}, IsSpace a → Spells (.value item) cs →
      ∀ rest more, skipBlanks (a ++ (cs ++ rest)) ≠ ']' :: more := by
    intro item a cs ha hcs rest more
    obtain ⟨c, cs', rfl, hc⟩ := hcs.exists_cons
    simp only [List.mem_cons, List.not_mem_nil, or_false, not_or] at hc
    rw [skipBlanks_append ha]
    simp [skipBlanks, hc]
  cases h with
  | lastItem ha hcs hb => simpa using hvalue ha hcs _ more
  | nextItem ha hcs hb hmore => simpa using hvalue ha hcs _ more

/-- Members do not begin with the closing brace. -/
theorem Spells.members_ne {members : Option (List (String × Json))} {cs : List Char}
    (h : Spells (.members members) cs) (rest more : List Char) :
    skipBlanks (cs ++ rest) ≠ '\x7d' :: more := by
  have hkey : ∀ {key : List Char} {k : Option String}, KeyText key k →
      ∀ rest, skipBlanks (key ++ rest) ≠ '\x7d' :: more := by
    rintro key k ⟨a, inner, b, s, rfl, ha, -, -, -⟩ rest
    rw [List.append_assoc, List.cons_append, skipBlanks_space ha (by decide)]
    simp
  cases h with
  | lastMember hk ha hcs hb => simpa using hkey hk _
  | nextMember hk ha hcs hb hmore => simpa using hkey hk _

/-- A value is more than nothing, so there is fuel to read it with. -/
theorem ReadPart.value {j : Json} {cs : List Char} (hne : cs ≠ [])
    (h : ∀ fuel rest, Ends rest → 2 * cs.length ≤ fuel + 1 →
      readValue (fuel + 1) (cs ++ rest) = some (j, rest)) : ReadPart (.value j) cs := by
  intro fuel rest hrest hfuel
  have hpos := List.length_pos_iff.2 hne
  obtain ⟨fuel, rfl⟩ : ∃ k, fuel = k + 1 := ⟨fuel - 1, by omega⟩
  exact h fuel rest hrest hfuel

/-- What is spelled is read. -/
theorem Spells.read {part : Part} {cs : List Char} (h : Spells part cs) : ReadPart part cs := by
  -- twice the length pays for a value and for the list that it stands in, so an opening bracket
  -- leaves what its list needs
  induction h with
  | nullText => exact .value (by simp) fun fuel rest hrest hfuel => rfl
  | trueText => exact .value (by simp) fun fuel rest hrest hfuel => rfl
  | falseText => exact .value (by simp) fun fuel rest hrest hfuel => rfl
  | number h =>
    obtain ⟨c, more, hcs, -⟩ := h.exists_cons
    exact .value (by simp [hcs]) fun fuel rest hrest hfuel => readValue_number h hrest fuel
  | @string cs s h =>
    refine .value (by simp) fun fuel rest hrest hfuel => ?_
    have hread := h.readToQuote ((cs ++ '"' :: rest).length + 1) rest (by simp)
    have hopen : skipBlanks ('"' :: (cs ++ '"' :: rest)) = '"' :: (cs ++ '"' :: rest) := rfl
    simp only [List.cons_append, List.append_assoc, List.nil_append]
    rw [readValue, hopen]
    simp only [hread, Option.bind_eq_bind, Option.bind_some, Option.pure_def]
  | @emptyArray a ha =>
    refine .value (by simp) fun fuel rest hrest hfuel => ?_
    have hopen : skipBlanks ('[' :: (a ++ ']' :: rest)) = '[' :: (a ++ ']' :: rest) := rfl
    have hclose := skipBlanks_space ha (c := ']') (by decide) rest
    simp only [List.cons_append, List.append_assoc, List.nil_append]
    rw [readValue, hopen]
    simp only [hclose]
  | array h ih =>
    refine .value (by simp) fun fuel rest hrest hfuel => ?_
    simp only [List.cons_append, List.append_assoc, List.nil_append]
    exact readValue_array (h.items_ne _) (ih fuel rest (by simp at hfuel; omega))
  | @emptyObject a ha =>
    refine .value (by simp) fun fuel rest hrest hfuel => ?_
    have hopen : skipBlanks ('\x7b' :: (a ++ '\x7d' :: rest)) = '\x7b' :: (a ++ '\x7d' :: rest) :=
      rfl
    have hclose := skipBlanks_space ha (c := '\x7d') (by decide) rest
    simp only [List.cons_append, List.append_assoc, List.nil_append]
    rw [readValue, hopen]
    simp only [hclose]
  | object h ih =>
    refine .value (by simp) fun fuel rest hrest hfuel => ?_
    simp only [List.cons_append, List.append_assoc, List.nil_append]
    exact readValue_object (h.members_ne _) (ih fuel rest (by simp at hfuel; omega))
  | @lastItem a cs b item ha h hb ih =>
    intro fuel rest hfuel
    obtain ⟨fuel, rfl⟩ : ∃ k, fuel = k + 1 := ⟨fuel - 1, by omega⟩
    simp only [List.length_append] at hfuel
    have hitem := ih fuel (b ++ ']' :: rest) (.of_space hb (by decide) rest) (by omega)
    rw [← readValue_append ha] at hitem
    simp only [List.append_assoc]
    exact readItems_last hitem (skipBlanks_space hb (by decide) _)
  | @nextItem a cs b more item items ha h hb _ ih ihmore =>
    intro fuel rest hfuel
    obtain ⟨fuel, rfl⟩ : ∃ k, fuel = k + 1 := ⟨fuel - 1, by omega⟩
    simp only [List.length_append, List.length_cons] at hfuel
    have hitem := ih fuel (b ++ ',' :: (more ++ ']' :: rest)) (.of_space hb (by decide) _)
      (by omega)
    rw [← readValue_append ha] at hitem
    simp only [List.append_assoc, List.cons_append]
    exact readItems_next hitem (skipBlanks_space hb (by decide) _) (ihmore fuel rest (by omega))
  | @lastMember key a cs b k value hkey ha h hb ih =>
    intro fuel rest hfuel
    obtain ⟨fuel, rfl⟩ : ∃ k, fuel = k + 1 := ⟨fuel - 1, by omega⟩
    simp only [List.length_append] at hfuel
    have hvalue := ih fuel (b ++ '\x7d' :: rest) (.of_space hb (by decide) rest) (by omega)
    rw [← readValue_append ha] at hvalue
    simp only [List.append_assoc]
    exact readMembers_last hkey hvalue (skipBlanks_space hb (by decide) _)
  | @nextMember key a cs b more k value members hkey ha h hb _ ih ihmore =>
    intro fuel rest hfuel
    obtain ⟨fuel, rfl⟩ : ∃ k, fuel = k + 1 := ⟨fuel - 1, by omega⟩
    simp only [List.length_append, List.length_cons] at hfuel
    have hvalue := ih fuel (b ++ ',' :: (more ++ '\x7d' :: rest)) (.of_space hb (by decide) _)
      (by omega)
    rw [← readValue_append ha] at hvalue
    simp only [List.append_assoc, List.cons_append]
    exact readMembers_next hkey hvalue (skipBlanks_space hb (by decide) _)
      (ihmore fuel rest (by omega))

/-- A JSON text is read as the value that it spells. -/
theorem TextOf.parse? {j : Json} {text : String} (h : TextOf j text) : parse? text = some j := by
  obtain ⟨a, cs, b, htext, ha, hcs, hb⟩ := h
  have hends : Ends b := fun c hc => by
    obtain ⟨b, rfl⟩ : ∃ b', b = c :: b' := by
      cases b with
      | nil => cases hc
      | cons d b => exact ⟨b, by rw [Option.some.inj hc]⟩
    rcases hb c List.mem_cons_self with rfl | rfl | rfl | rfl <;> decide
  have hread := hcs.read (2 * text.toList.length + 2) b hends (by simp [htext]; omega)
  rw [← readValue_append ha, ← htext] at hread
  have hrest := skipBlanks_append hb []
  rw [List.append_nil] at hrest
  have hnil : skipBlanks [] = [] := rfl
  rw [Json.parse?]
  simp only [hread, hrest, hnil, List.isEmpty_nil, if_true]

end IdentityDocs.Json
