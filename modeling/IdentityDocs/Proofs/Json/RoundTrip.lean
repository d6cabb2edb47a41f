import IdentityDocs.Json.Printer
import IdentityDocs.Proofs.Json.Reading

/-!
# Written values are read back

Both layouts write JSON texts of the value, so `Json.parse?` reads them as that value: strings of
any characters, the controls and quotes that are escaped included, numbers, arrays, and objects with
any keys. Only what is broken, and decimals whose parts are not digits, have no text.
-/

namespace IdentityDocs.Json

/-! ## Strings -/

theorem hexDigit_digitChar {d : Nat} (h : d < 16) : HexDigit (Nat.digitChar d) d := by
  unfold HexDigit
  interval_cases d <;> decide

theorem unitText_spells {n : Nat} (h : n < 256) : UnitText (unitText n) n :=
  ⟨_, _, _, _, 0, 0, n / 16, n % 16, rfl, hexDigit_digitChar (d := 0) (by omega),
    hexDigit_digitChar (d := 0) (by omega), hexDigit_digitChar (by omega),
    hexDigit_digitChar (by omega), by omega⟩

/-- A character is escaped to what stands for it. -/
theorem StringText.escapeChar (c : Char) {cs s : List Char} (h : StringText cs (some s)) :
    StringText (escapeChar c ++ cs) (some (c :: s)) := by
  unfold Json.escapeChar
  split
  case h_8 hquote hbackslash _ _ _ _ _ =>
    split
    case isTrue hlow =>
      have hunit := unitText_spells (n := c.toNat) (by omega)
      have hhigh : ¬ IsHigh c.toNat := by unfold IsHigh; omega
      have hlow : ¬ IsLow c.toNat := by unfold IsLow; omega
      simpa using StringText.unit hunit hhigh hlow h
    case isFalse hcontrol => exact .plain hquote hbackslash (by omega) h
  all_goals exact .short (by decide) h

theorem stringText_escaped (cs : List Char) : StringText (cs.flatMap escapeChar) (some cs) := by
  induction cs with
  | nil => exact .nil
  | cons c cs ih => exact ih.escapeChar c

/-! ## Numbers -/

theorem head?_toDigits {n : Nat} (h : 0 < n) : (Nat.toDigits 10 n).head? ≠ some '0' := by
  induction n using Nat.strong_induction_on with
  | _ n ih =>
    by_cases hsmall : n < 10
    · rw [Nat.toDigits_of_lt_base hsmall]
      interval_cases n <;> decide
    · rw [Nat.toDigits_of_base_le (by omega) (by omega),
        List.head?_append_of_ne_nil _ Nat.toDigits_ne_nil]
      exact ih (n / 10) (by omega) (by omega)

theorem wholeText_toDigits (n : Nat) : WholeText (Nat.toDigits 10 n) := by
  refine ⟨⟨Nat.toDigits_ne_nil, fun c => Nat.isDigit_of_mem_toDigits (by omega) (by omega)⟩, ?_⟩
  intro hzero
  rcases Nat.eq_zero_or_pos n with rfl | hpos
  · rfl
  · exact absurd hzero (head?_toDigits hpos)

theorem digitsValue_toDigits (n : Nat) : digitsValue (Nat.toDigits 10 n) = n := by
  have hvalue : Nat.ofDigitChars 10 (Nat.toDigits 10 n) 0 = n :=
    Nat.ofDigitChars_toDigits (by omega) (by omega)
  simp only [Nat.ofDigitChars, Nat.mul_comm 10] at hvalue
  exact hvalue

/-- A whole number is written as its digits, with a minus in front if it is below zero. -/
theorem exists_toList_toString (v : Int) : ∃ sign negative,
    SignText sign negative ∧ sign ≠ ['+'] ∧ (negative = true → v ≠ 0) ∧
      (toString v).toList = sign ++ Nat.toDigits 10 v.natAbs ∧ v = signed negative v.natAbs := by
  rw [Int.toString_eq_repr, Int.repr_eq_if]
  by_cases hsign : 0 ≤ v
  · have habs : v.toNat = v.natAbs := by omega
    refine ⟨[], false, .absent, by simp, by simp, ?_, (Int.natAbs_of_nonneg hsign).symm⟩
    simp [hsign, habs, Nat.repr_eq_ofList_toDigits]
  · have habs : (-v).toNat = v.natAbs := by omega
    refine ⟨['-'], true, .minus, by simp, by omega, ?_, by rw [signed, if_pos rfl]; omega⟩
    simp [hsign, habs, Nat.repr_eq_ofList_toDigits]

/-- The parts of the number are digits. -/
def Number.Proper : Number → Prop
  | .whole _ => True
  | .decimal _ integral fraction _ => WholeText integral ∧ (fraction = [] ∨ IsDigits fraction)

theorem numberText_spells {n : Number} (h : n.Proper) : NumberText (numberText n) n := by
  cases n with
  | whole v =>
    obtain ⟨sign, negative, hsign, hplus, hzero, htext, hv⟩ := exists_toList_toString v
    have hspelled := NumberText.mk hsign hplus (wholeText_toDigits v.natAbs)
      (.inl ⟨rfl, rfl⟩) .absent
    have hnumber : Number.ofParts negative (Nat.toDigits 10 v.natAbs) [] none = .whole v := by
      have hproper : ¬ (negative = true ∧ v.natAbs = 0) := fun hboth =>
        hzero hboth.1 (Int.natAbs_eq_zero.1 hboth.2)
      rw [Number.ofParts, digitsValue_toDigits, if_pos ⟨rfl, rfl, hproper⟩, ← hv]
    rw [hnumber, List.append_nil, List.append_nil, ← htext] at hspelled
    exact hspelled
  | decimal negative integral fraction exponent =>
    obtain ⟨hintegral, hfraction⟩ := h
    obtain ⟨sign, below, hsign, -, -, htext, hv⟩ := exists_toList_toString exponent
    have hexponent : ExponentText ('e' :: (toString exponent).toList) (some exponent) := by
      have hpresent := ExponentText.present (.inl rfl) hsign (wholeText_toDigits exponent.natAbs).1
      rwa [digitsValue_toDigits, ← htext, ← hv] at hpresent
    have hpoint : FractionText (if fraction = [] then [] else '.' :: fraction) fraction := by
      rcases hfraction with rfl | hfraction
      · exact .inl ⟨rfl, rfl⟩
      · rw [if_neg hfraction.1]
        exact .inr ⟨rfl, hfraction⟩
    have hminus : ∃ sign, SignText sign negative ∧ sign ≠ ['+'] ∧
        (if negative then ['-'] else []) = sign := by
      cases negative with
      | false => exact ⟨[], .absent, by simp, rfl⟩
      | true => exact ⟨['-'], .minus, by simp, rfl⟩
    obtain ⟨minus, hminus, hplus, hminusText⟩ := hminus
    have hspelled := NumberText.mk hminus hplus hintegral hpoint hexponent
    have hnumber : Number.ofParts negative integral fraction (some exponent) =
        .decimal negative integral fraction exponent := by simp [Number.ofParts]
    rw [hnumber] at hspelled
    simpa [numberText, hminusText] using hspelled

/-! ## Values -/

mutual

/-- A value without broken parts. -/
def Plain : Json → Prop
  | null => True
  | bool _ => True
  | number n => n.Proper
  | string _ => True
  | array items => PlainItems items
  | object members => PlainMembers members
  | broken => False

/-- Items without broken parts. -/
def PlainItems : List Json → Prop
  | [] => True
  | item :: items => Plain item ∧ PlainItems items

/-- Members without broken parts. -/
def PlainMembers : List (String × Json) → Prop
  | [] => True
  | (_, value) :: members => Plain value ∧ PlainMembers members

end

theorem isSpace_nil : IsSpace [] := by simp [IsSpace]

theorem isSpace_newline (level : Nat) : IsSpace (newline level) := by
  intro c hc
  rcases List.mem_cons.1 hc with rfl | hc
  · exact .inr (.inl rfl)
  · exact .inl (List.eq_of_mem_replicate hc)

theorem isSpace_blank : IsSpace [' '] := by simp [IsSpace]

theorem spells_stringText (s : String) : Spells (.value (string s)) (stringText s) := by
  have hspelled := Spells.string (stringText_escaped s.toList)
  rwa [Option.elim_some, String.ofList_toList] at hspelled

/-- A key with the colon behind it, on the line or on a line of its own. -/
theorem keyText_stringText {a : List Char} (ha : IsSpace a) (key : String) :
    KeyText (a ++ (stringText key ++ [':'])) (some key) := by
  refine ⟨a, key.toList.flatMap escapeChar, [], some key.toList, ?_, ha,
    stringText_escaped key.toList, isSpace_nil, by simp⟩
  simp [stringText]

/-! ### Without white space -/

mutual

theorem spells_compactText : ∀ j : Json, j.Plain → Spells (.value j) (compactText j)
  | null, _ => .nullText
  | bool true, _ => .trueText
  | bool false, _ => .falseText
  | number _, h => .number (numberText_spells h)
  | string s, _ => spells_stringText s
  | array [], _ => .emptyArray isSpace_nil
  | array (item :: items), h => .array (spells_compactItems (item :: items) (by simp) h)
  | object [], _ => .emptyObject isSpace_nil
  | object (member :: members), h => by
    have hobject := Spells.object (spells_compactMembers (member :: members) (by simp) h)
    exact hobject
  | broken, h => absurd h id

theorem spells_compactItems : ∀ items : List Json, items ≠ [] → PlainItems items →
    Spells (.items items) (compactItems items)
  | [], hne, _ => absurd rfl hne
  | [item], _, h => by
    have hlast := Spells.lastItem isSpace_nil (spells_compactText item h.1) isSpace_nil
    simpa [compactItems] using hlast
  | item :: next :: items, _, h => by
    have hmore := spells_compactItems (next :: items) (by simp) h.2
    exact Spells.nextItem isSpace_nil (spells_compactText item h.1) isSpace_nil hmore

theorem spells_compactMembers : ∀ members : List (String × Json), members ≠ [] →
    PlainMembers members → Spells (.members (some members)) (compactMembers members)
  | [], hne, _ => absurd rfl hne
  | [(key, value)], _, h => by
    have hlast := Spells.lastMember (keyText_stringText isSpace_nil key) isSpace_nil
      (spells_compactText value h.1) isSpace_nil
    simpa [compactMembers] using hlast
  | (key, value) :: next :: members, _, h => by
    have hmore := spells_compactMembers (next :: members) (by simp) h.2
    have hnext := Spells.nextMember (keyText_stringText isSpace_nil key) isSpace_nil
      (spells_compactText value h.1) isSpace_nil hmore
    simpa [compactMembers] using hnext

end

/-! ### On lines -/

mutual

theorem spells_prettyText : ∀ (j : Json) (level : Nat), j.Plain →
    Spells (.value j) (prettyText level j)
  | null, _, _ => .nullText
  | bool true, _, _ => .trueText
  | bool false, _, _ => .falseText
  | number _, _, h => .number (numberText_spells h)
  | string s, _, _ => spells_stringText s
  | array [], _, _ => .emptyArray isSpace_nil
  | array (item :: items), level, h => by
    have hitems := spells_prettyItems (item :: items) (level + 1) (isSpace_newline level)
      (by simp) h
    simpa [prettyText] using Spells.array hitems
  | object [], _, _ => .emptyObject isSpace_nil
  | object (member :: members), level, h => by
    have hmembers := spells_prettyMembers (member :: members) (level + 1) (isSpace_newline level)
      (by simp) h
    simpa [prettyText] using Spells.object hmembers
  | broken, _, h => absurd h id

theorem spells_prettyItems : ∀ (items : List Json) (level : Nat) {b : List Char}, IsSpace b →
    items ≠ [] → PlainItems items → Spells (.items items) (prettyItems level items ++ b)
  | [], _, _, _, hne, _ => absurd rfl hne
  | [item], level, b, hb, _, h => by
    have hlast := Spells.lastItem (isSpace_newline level) (spells_prettyText item level h.1) hb
    simpa [prettyItems] using hlast
  | item :: next :: items, level, b, hb, _, h => by
    have hmore := spells_prettyItems (next :: items) level hb (by simp) h.2
    have hnext := Spells.nextItem (isSpace_newline level) (spells_prettyText item level h.1)
      isSpace_nil hmore
    simpa [prettyItems] using hnext

theorem spells_prettyMembers : ∀ (members : List (String × Json)) (level : Nat) {b : List Char},
    IsSpace b → members ≠ [] → PlainMembers members →
    Spells (.members (some members)) (prettyMembers level members ++ b)
  | [], _, _, _, hne, _ => absurd rfl hne
  | [(key, value)], level, b, hb, _, h => by
    have hlast := Spells.lastMember (keyText_stringText (isSpace_newline level) key) isSpace_blank
      (spells_prettyText value level h.1) hb
    simpa [prettyMembers] using hlast
  | (key, value) :: next :: members, level, b, hb, _, h => by
    have hmore := spells_prettyMembers (next :: members) level hb (by simp) h.2
    have hnext := Spells.nextMember (keyText_stringText (isSpace_newline level) key) isSpace_blank
      (spells_prettyText value level h.1) isSpace_nil hmore
    simpa [prettyMembers] using hnext

end

theorem textOf_compact {j : Json} (h : j.Plain) : TextOf j j.compact := by
  refine ⟨[], compactText j, [], ?_, isSpace_nil, spells_compactText j h, isSpace_nil⟩
  simp [compact]

theorem textOf_pretty {j : Json} (h : j.Plain) : TextOf j j.pretty := by
  refine ⟨[], prettyText 0 j, [], ?_, isSpace_nil, spells_prettyText j 0 h, isSpace_nil⟩
  simp [pretty]

/-- The text of a value without broken parts is read as that value. -/
theorem parse?_compact {j : Json} (h : j.Plain) : parse? j.compact = some j :=
  (textOf_compact h).parse?

/-- So is its text laid out on lines. -/
theorem parse?_pretty {j : Json} (h : j.Plain) : parse? j.pretty = some j :=
  (textOf_pretty h).parse?

end IdentityDocs.Json
