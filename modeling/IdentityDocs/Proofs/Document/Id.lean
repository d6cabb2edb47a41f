import IdentityDocs.Document.Id
import Mathlib.Data.List.Basic

/-!
# The text of an identifier

The canonical spelling loses nothing: a reader gets the identifier back. Documents are told apart by
these texts wherever rows and entries are kept.
-/

namespace IdentityDocs.DocumentId

/-! ## Digits -/

theorem digit?_digitChar (d : Fin 16) : digit? (digitChar d) = some d := by
  revert d
  decide

theorem mapM_digit?_map (ds : List (Fin 16)) : (ds.map digitChar).mapM digit? = some ds := by
  induction ds with
  | nil => rfl
  | cons d ds ih =>
    rw [List.map_cons, List.mapM_cons, digit?_digitChar, ih]
    rfl

theorem mapM_digit?_of_hyphen_mem {cs : List Char} (h : '-' ∈ cs) : cs.mapM digit? = none := by
  induction cs with
  | nil => exact absurd h List.not_mem_nil
  | cons c cs ih =>
    rw [List.mapM_cons]
    rcases List.mem_cons.1 h with rfl | h
    · have hhyphen : digit? '-' = none := by decide
      rw [hhyphen]
      rfl
    · rw [ih h]
      cases digit? c <;> rfl

/-! ## Groups -/

/-- The five groups are the whole. -/
theorem groups_append (cs : List Char) :
    cs.take 8 ++ (cs.drop 8).take 4 ++ (cs.drop 12).take 4 ++ (cs.drop 16).take 4 ++
      cs.drop 20 = cs := by
  have hgroup : ∀ n m k, n + m = k → (cs.drop n).take m ++ cs.drop k = cs.drop n := by
    rintro n m k rfl
    rw [← List.drop_drop, List.take_append_drop]
  rw [List.append_assoc, List.append_assoc, List.append_assoc, hgroup 16 4 20 rfl,
    hgroup 12 4 16 rfl, hgroup 8 4 12 rfl, List.take_append_drop]

theorem ofGroups?_groups {a b c d e : List Char} (ha : a.length = 8) (hb : b.length = 4)
    (hc : c.length = 4) (hd : d.length = 4) (he : e.length = 12) :
    ofGroups? (a ++ '-' :: b ++ '-' :: c ++ '-' :: d ++ '-' :: e) =
      ofPlain? (a ++ b ++ c ++ d ++ e) := by
  unfold ofGroups?
  simp [ha, hb, hc, hd, he, List.drop_append, List.drop_eq_nil_of_le]

/-! ## The canonical spelling -/

/-- The canonical spelling is read as the identifier that it spells. -/
theorem ofText?_text (id : DocumentId) : ofText? id.text = some id := by
  have hlength : (id.digits.map digitChar).length = 32 := by
    rw [List.length_map, id.length_digits]
  -- the spelling without hyphens is tried first and does not fit
  have hplain : ofPlain? id.chars = none := by
    rw [ofPlain?, mapM_digit?_of_hyphen_mem (by simp [chars])]
    rfl
  have hgroups : ofGroups? id.chars = some id := by
    unfold chars
    rw [ofGroups?_groups (by simp [hlength]) (by simp [hlength]) (by simp [hlength])
      (by simp [hlength]) (by simp [hlength]), groups_append, ofPlain?, mapM_digit?_map]
    simp [ofDigits?, id.length_digits]
  rw [ofText?, text, String.toList_ofList, ofChars?, hplain, hgroups]
  rfl

theorem text_injective : Function.Injective text := by
  intro a b h
  rw [← Option.some_inj, ← ofText?_text a, ← ofText?_text b, h]

@[simp] theorem text_inj {a b : DocumentId} : a.text = b.text ↔ a = b := text_injective.eq_iff

end IdentityDocs.DocumentId
