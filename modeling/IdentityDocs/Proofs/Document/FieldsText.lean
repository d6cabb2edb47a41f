import IdentityDocs.Document.Fields
import IdentityDocs.Proofs.Json.Shape

/-!
# Fields are read back

Written as JSON, fields lose nothing: each slot says whether it holds a value, apart from what the
value is, so neither the empty text nor the text that is shown for a missing value can be taken for
none. `Fields.ofJson?_eq_some_iff` says of which JSON values fields can be read at all. Apart from
what is written these are objects with the members in any order and others between them, arrays of
the four parts, and maps that have a key more than once; what they are read as is written and read
again without a change.
-/

namespace IdentityDocs

/-! ## Values -/

/-- The JSON values of what a slot holds. -/
inductive FieldValue.Holds : FieldValue → Json → Prop
  | notFound : Holds .notFound (.string "NotFound")
  | notFoundTag : Holds .notFound (.object [("NotFound", .null)])
  | found (value : String) : Holds (.found value) (.object [("Found", .string value)])

/-- The JSON values of the four parts of fields, in the order in which they are written. -/
inductive Fields.Parts (fields : Fields) : List Json → Prop
  | mk {idNumber name dateOfBirth labels : Json} : fields.idNumber.Holds idNumber →
    fields.name.Holds name → fields.dateOfBirth.Holds dateOfBirth → fields.labels.Holds labels →
    Parts fields [idNumber, name, dateOfBirth, labels]

/-- The names of the parts. -/
def Fields.partNames : List String := ["id_number", "name", "date_of_birth", "labels"]

/-- The JSON values of fields: objects that have each part once, and arrays of the parts. -/
inductive Fields.Holds (fields : Fields) : Json → Prop
  | object {members : List (String × Json)} {parts : List Json} :
    List.Forall₂ (Json.HasMember members) partNames parts → fields.Parts parts →
    Holds fields (.object members)
  | array {parts : List Json} : fields.Parts parts → Holds fields (.array parts)

theorem FieldValue.ofJson?_eq_some_iff {j : Json} {slot : FieldValue} :
    ofJson? j = some slot ↔ slot.Holds j := by
  constructor
  · intro h
    unfold ofJson? at h
    split at h
    case h_1 => exact Option.some.inj h ▸ .notFound
    case h_2 => exact Option.some.inj h ▸ .notFoundTag
    case h_3 value => exact Option.some.inj h ▸ .found value
    case h_4 => cases h
  · intro h
    cases h with
    | notFound => rfl
    | notFoundTag => rfl
    | found value => rfl

theorem FieldValue.holds_toJson (slot : FieldValue) : slot.Holds slot.toJson := by
  cases slot with
  | notFound => exact .notFound
  | found value => exact .found value

namespace Fields

theorem ofJson?_eq_some_iff {j : Json} {fields : Fields} :
    ofJson? j = some fields ↔ fields.Holds j := by
  constructor
  · intro h
    simp only [ofJson?, Option.bind_eq_bind, Option.bind_eq_some_iff] at h
    obtain ⟨values, hvalues, h⟩ := h
    split at h
    case h_1 idNumber name dateOfBirth labels =>
      obtain ⟨_, hidNumber, h⟩ := Option.bind_eq_some_iff.1 h
      obtain ⟨_, hname, h⟩ := Option.bind_eq_some_iff.1 h
      obtain ⟨_, hdateOfBirth, h⟩ := Option.bind_eq_some_iff.1 h
      obtain ⟨_, hlabels, h⟩ := Option.bind_eq_some_iff.1 h
      obtain rfl := Option.some.inj h
      have hparts : Parts ⟨_, _, _, _⟩ [idNumber, name, dateOfBirth, labels] :=
        .mk (FieldValue.ofJson?_eq_some_iff.1 hidNumber) (FieldValue.ofJson?_eq_some_iff.1 hname)
          (FieldValue.ofJson?_eq_some_iff.1 hdateOfBirth) (Json.textMap?_eq_some_iff.1 hlabels)
      have hstand : j.fields? partNames =
        some ([idNumber, name, dateOfBirth, labels].map some) := hvalues
      rcases Json.fields?_eq_some_iff.1 hstand with ⟨members, rfl, hmembers⟩ | ⟨rfl, -⟩
      · exact .object hmembers hparts
      · exact .array hparts
    case h_2 => cases h
  · intro h
    obtain ⟨parts, hvalues, hparts⟩ : ∃ parts : List Json,
        j.fields? partNames = some (parts.map some) ∧ fields.Parts parts := by
      cases h with
      | object hmembers hparts =>
        exact ⟨_, Json.fields?_eq_some_iff.2 (.inl ⟨_, rfl, hmembers⟩), hparts⟩
      | array hparts =>
        refine ⟨_, Json.fields?_eq_some_iff.2 (.inr ⟨rfl, ?_⟩), hparts⟩
        cases hparts
        rfl
    cases hparts with
    | mk hidNumber hname hdateOfBirth hlabels =>
      rw [← FieldValue.ofJson?_eq_some_iff] at hidNumber hname hdateOfBirth
      rw [← Json.textMap?_eq_some_iff] at hlabels
      simp only [partNames] at hvalues
      simp [ofJson?, hvalues, hidNumber, hname, hdateOfBirth, hlabels]

theorem holds_toJson (fields : Fields) : fields.Holds fields.toJson := by
  have hparts := Parts.mk fields.idNumber.holds_toJson fields.name.holds_toJson
    fields.dateOfBirth.holds_toJson ⟨_, rfl, fields.labels.ofList_entries⟩
  refine .object ?_ hparts
  refine .cons ⟨[], _, rfl, by simp⟩ (.cons ⟨[_], _, rfl, by simp⟩ ?_)
  exact .cons ⟨[_, _], _, rfl, by simp⟩ (.cons ⟨[_, _, _], _, rfl, by simp⟩ .nil)

theorem plain_toJson (fields : Fields) : fields.toJson.Plain := by
  have hslot : ∀ slot : FieldValue, slot.toJson.Plain := by
    intro slot
    cases slot with
    | notFound => trivial
    | found value => exact ⟨trivial, trivial⟩
  exact ⟨hslot _, hslot _, hslot _, Json.plain_ofTextMap _, trivial⟩

/-! ## Texts -/

/-- The text of fields. -/
def text (fields : Fields) : String := fields.toJson.compact

/-- Reads the text of fields. -/
def ofText? (text : String) : Option Fields := (Json.parse? text).bind ofJson?

/-- A text of JSON is read as the fields that its value holds. -/
theorem ofText?_eq_some_iff {j : Json} {text : String} {fields : Fields}
    (h : Json.TextOf j text) : ofText? text = some fields ↔ fields.Holds j := by
  rw [ofText?, h.parse?, Option.bind_some, ofJson?_eq_some_iff]

theorem ofText?_text (fields : Fields) : ofText? fields.text = some fields :=
  (ofText?_eq_some_iff (Json.textOf_compact fields.plain_toJson)).2 fields.holds_toJson

theorem ofText?_pretty (fields : Fields) : ofText? fields.toJson.pretty = some fields :=
  (ofText?_eq_some_iff (Json.textOf_pretty fields.plain_toJson)).2 fields.holds_toJson

theorem text_injective : Function.Injective text := by
  intro fields fields' h
  have hread := ofText?_text fields
  rw [h, ofText?_text fields'] at hread
  exact (Option.some.inj hread).symm

/-- **The text of fields loses nothing.** Whatever texts the slots and the map hold, the text of
fields is read as these fields, without white space or on lines. So different fields have different
texts; in particular the texts differ where one has a slot without a value and the other has a value
in it, were it the text that is shown for a missing one. A text of JSON is read as fields just if it
is an object with the four parts, each once, in any order and next to any others, or the array of
the four; and if it is, what is written of these fields is read as the same fields. -/
theorem text_lossless :
    (∀ fields : Fields,
      ofText? fields.text = some fields ∧ ofText? fields.toJson.pretty = some fields) ∧
    (∀ fields fields' : Fields, fields.text = fields'.text → fields = fields') ∧
    (∀ (fields fields' : Fields) (slot : Field) (value : String), fields.get slot = .notFound →
      fields'.get slot = .found value → fields.text ≠ fields'.text) ∧
    (∀ (j : Json) (text : String) (fields : Fields), Json.TextOf j text →
      (ofText? text = some fields ↔ fields.Holds j)) ∧
    ∀ (text : String) (fields : Fields), ofText? text = some fields →
      ofText? fields.text = ofText? text := by
  refine ⟨fun fields => ⟨ofText?_text fields, ofText?_pretty fields⟩, ?_, ?_, ?_, ?_⟩
  · intro fields fields' h
    exact text_injective h
  · intro fields fields' slot value hslot hslot' h
    rw [text_injective h, hslot'] at hslot
    cases hslot
  · intro j text fields h
    exact ofText?_eq_some_iff h
  · intro text fields h
    rw [h, ofText?_text]

/-- Fields with values that look like none, and a label full of characters to be escaped. -/
def sample : Fields where
  idNumber := .found "Not Found"
  name := .found ""
  labels := .ofList [("\"\\", "é\n😀\x01")]

/-- The sample with its parts in another order, a part that is none, and a label twice. -/
def disordered : Json :=
  .object [("labels", .object [("\"\\", .string "old"), ("\"\\", .string "é\n😀\x01")]),
    ("seal", .array [.null]), ("name", .object [("Found", .string "")]),
    ("date_of_birth", .object [("NotFound", .null)]),
    ("id_number", .object [("Found", .string "Not Found")])]

theorem holds_disordered : sample.Holds disordered := by
  have hlabels : sample.labels.Holds
      (.object [("\"\\", .string "old"), ("\"\\", .string "é\n😀\x01")]) :=
    ⟨[("\"\\", "old"), ("\"\\", "é\n😀\x01")], rfl, TextMap.ext (by decide)⟩
  refine .object ?_ (.mk (.found _) (.found _) .notFoundTag hlabels)
  refine .cons ⟨[_, _, _, _], [], rfl, by simp⟩ (.cons ⟨[_, _], [_, _], rfl, by simp⟩ ?_)
  exact .cons ⟨[_, _, _], [_], rfl, by simp⟩ (.cons ⟨[], [_, _, _, _], rfl, by simp⟩ .nil)

theorem text_lossless_sample :
    ofText? disordered.pretty = some sample ∧ ofText? sample.text = ofText? disordered.pretty ∧
      sample.text ≠ ({} : Fields).text := by
  obtain ⟨-, -, hunset, hread, hagain⟩ := text_lossless
  have hplain : disordered.Plain := by
    simp [disordered, Json.Plain, Json.PlainMembers, Json.PlainItems]
  have hsample : ofText? disordered.pretty = some sample :=
    (hread disordered _ _ (Json.textOf_pretty hplain)).2 holds_disordered
  refine ⟨hsample, hagain _ _ hsample, ?_⟩
  exact (hunset {} sample .idNumber "Not Found" rfl rfl).symm

end Fields

end IdentityDocs
