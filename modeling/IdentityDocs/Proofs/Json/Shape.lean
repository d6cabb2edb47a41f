import IdentityDocs.Json.Shape
import IdentityDocs.Proofs.Json.RoundTrip
import Mathlib.Data.List.Forall2

/-!
# Written shapes are read back

A choice from a closed list and a map of texts are read back as they were written. The entries of a
map are in ascending order, so entering them one by one appends each to those before it.

More is read than is written: a map may list its entries in any order and a key more than once
(`textMap?_eq_some_iff`), and a structure of which no field is left out may have its members in any
order with others between them, or be an array (`fields?_eq_some_iff`).
-/

namespace IdentityDocs

/-- A key beyond all others comes last. -/
theorem TextMap.place_eq_append {key : String} (value : String) {l : List (String × String)}
    (h : ∀ e ∈ l, e.1 < key) : place key value l = l ++ [(key, value)] := by
  induction l with
  | nil => rfl
  | cons entry rest ih =>
    have hlt : entry.1 < key := h entry (by simp)
    have hne : key ≠ entry.1 := fun heq => String.lt_irrefl _ (heq ▸ hlt)
    rw [place, if_neg (String.lt_asymm hlt), if_neg hne,
      ih fun e he => h e (List.mem_cons_of_mem _ he), List.cons_append]

/-- Entering the entries of a map one by one makes the map. -/
theorem TextMap.ofList_entries (m : TextMap) : ofList m.entries = m := by
  have hfold : ∀ (l : List (String × String)) (n : TextMap),
      (n.entries ++ l).Pairwise (·.1 < ·.1) →
      (l.foldl (fun n e => n.insert e.1 e.2) n).entries = n.entries ++ l := by
    intro l
    induction l with
    | nil => exact fun n _ => (List.append_nil _).symm
    | cons e l ih =>
      intro n hsorted
      have hlast : ∀ e' ∈ n.entries, e'.1 < e.1 := fun e' he' =>
        (List.pairwise_append.1 hsorted).2.2 e' he' e (by simp)
      have hinsert : (n.insert e.1 e.2).entries = n.entries ++ [e] :=
        place_eq_append e.2 hlast
      rw [List.foldl_cons, ih _ (by simpa [hinsert] using hsorted), hinsert, List.append_assoc,
        List.singleton_append]
  exact TextMap.ext (hfold m.entries empty (by simpa [empty] using m.sorted))

/-- The JSON values of a map: its entries in any order; of equal keys the last one counts. -/
def TextMap.Holds (m : TextMap) (j : Json) : Prop :=
  ∃ entries, j = .object (entries.map fun e => (e.1, .string e.2)) ∧ ofList entries = m

namespace Json

theorem choice?_ofChoice {α : Type} [Enumerated α] (a : α) : choice? (ofChoice a) = some a :=
  Enumerated.ofName?_name a

theorem parse?_ofChoice {α : Type} [Enumerated α] (a : α) :
    parse? (ofChoice a).compact = some (ofChoice a) :=
  parse?_compact trivial

theorem plain_ofTextMap (m : TextMap) : (ofTextMap m).Plain := by
  have hmembers : ∀ l : List (String × String),
      PlainMembers (l.map fun e => (e.1, string e.2)) := by
    intro l
    induction l with
    | nil => trivial
    | cons e l ih => exact ⟨trivial, ih⟩
  exact hmembers m.entries

/-! ## What is read -/

theorem mapM_eq_some_iff {α β : Type} {f : α → Option β} {l : List α} {out : List β} :
    l.mapM f = some out ↔ List.Forall₂ (fun a b => f a = some b) l out := by
  induction l generalizing out with
  | nil => simp [List.forall₂_nil_left_iff, eq_comm]
  | cons a l ih =>
    simp only [List.mapM_cons, Option.bind_eq_bind, Option.bind_eq_some_iff, ih, Option.pure_def,
      Option.some.injEq, List.forall₂_cons_left_iff]
    constructor
    · rintro ⟨b, hb, rest, hrest, rfl⟩
      exact ⟨b, rest, hb, hrest, rfl⟩
    · rintro ⟨b, rest, hb, hrest, rfl⟩
      exact ⟨b, hb, rest, hrest, rfl⟩

theorem textMap?_eq_some_iff {j : Json} {m : TextMap} : j.textMap? = some m ↔ m.Holds j := by
  have hmember : ∀ (member : String × Json) (e : String × String),
      ((string? member.2).map fun s => (member.1, s)) = some e ↔ member = (e.1, string e.2) := by
    rintro ⟨key, value⟩ ⟨key', text⟩
    cases value with
    | string s => simp [string?]
    | _ => simp [string?]
  have hmembers : ∀ (members : List (String × Json)) (entries : List (String × String)),
      members.mapM (fun member => (string? member.2).map fun s => (member.1, s)) = some entries ↔
        members = entries.map fun e => (e.1, string e.2) := by
    intro members entries
    simp only [mapM_eq_some_iff, hmember]
    rw [← List.forall₂_eq_eq_eq, List.forall₂_map_right_iff]
  constructor
  · intro h
    unfold textMap? at h
    split at h
    case h_1 members =>
      obtain ⟨entries, hentries, rfl⟩ := Option.map_eq_some_iff.1 h
      exact ⟨entries, by rw [(hmembers members entries).1 hentries], rfl⟩
    case h_2 => cases h
  · rintro ⟨entries, rfl, rfl⟩
    rw [textMap?, (hmembers _ entries).2 rfl, Option.map_some]

theorem textMap?_ofTextMap (m : TextMap) : textMap? (ofTextMap m) = some m :=
  textMap?_eq_some_iff.2 ⟨m.entries, rfl, TextMap.ofList_entries m⟩

/-- The key stands once among the members, with the value. -/
def HasMember (members : List (String × Json)) (key : String) (value : Json) : Prop :=
  ∃ before behind, members = before ++ (key, value) :: behind ∧
    ∀ member ∈ before ++ behind, member.1 ≠ key

theorem member?_eq_some_some_iff {members : List (String × Json)} {key : String} {value : Json} :
    member? members key = some (some value) ↔ HasMember members key value := by
  have hfilter : member? members key = some (some value) ↔
      members.filter (fun m => decide (m.1 = key)) = [(key, value)] := by
    unfold member?
    constructor
    · intro h
      split at h
      case h_1 => cases h
      case h_2 key' value' heq =>
        obtain rfl : value' = value := by simpa using h
        have hmem : (key', value') ∈ members.filter (fun m => decide (m.1 = key)) := by
          rw [heq]
          exact List.mem_singleton_self _
        obtain rfl : key' = key := by simpa using (List.mem_filter.1 hmem).2
        exact heq
      case h_3 => cases h
    · intro h
      rw [h]
  rw [hfilter, List.filter_eq_cons_iff]
  constructor
  · rintro ⟨before, behind, rfl, hbefore, -, hbehind⟩
    refine ⟨before, behind, rfl, ?_⟩
    intro member hmember
    rcases List.mem_append.1 hmember with hmember | hmember
    · simpa using hbefore member hmember
    · simpa using List.filter_eq_nil_iff.1 hbehind member hmember
  · rintro ⟨before, behind, rfl, hother⟩
    refine ⟨before, behind, rfl, ?_, by simp, ?_⟩
    · intro member hmember
      simpa using hother member (List.mem_append_left _ hmember)
    · rw [List.filter_eq_nil_iff]
      intro member hmember
      simpa using hother member (List.mem_append_right _ hmember)

/-- A structure without gaps: an object that has each key once, or the array of the values. -/
theorem fields?_eq_some_iff {keys : List String} {j : Json} {values : List Json} :
    j.fields? keys = some (values.map some) ↔
      (∃ members, j = object members ∧ List.Forall₂ (HasMember members) keys values) ∨
        (j = array values ∧ values.length = keys.length) := by
  cases j with
  | object members =>
    simp only [fields?, mapM_eq_some_iff, List.forall₂_map_right_iff, member?_eq_some_some_iff]
    constructor
    · intro h
      exact .inl ⟨members, rfl, h⟩
    · rintro (⟨members', heq, h⟩ | ⟨heq, -⟩)
      · cases heq
        exact h
      · cases heq
  | array items =>
    constructor
    · intro h
      simp only [fields?] at h
      split at h
      case isTrue hlength =>
        have hitems : items = values :=
          List.map_injective_iff.2 (Option.some_injective _) (Option.some.inj h)
        exact .inr ⟨congrArg array hitems, hitems ▸ hlength⟩
      case isFalse => cases h
    · rintro (⟨members, heq, -⟩ | ⟨heq, hlength⟩)
      · cases heq
      · cases heq
        rw [fields?, if_pos hlength]
  | _ => simp [fields?]

end Json

end IdentityDocs
