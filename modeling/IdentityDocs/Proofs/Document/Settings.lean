import IdentityDocs.Document.Settings
import IdentityDocs.Proofs.Json.RoundTrip

/-!
# Settings are read back

An object lists settings: each of its members names a setting and holds a value for it, or has a key
that is not one. Reading such an object puts what it lists over the defaults, in whatever order the
keys come and whatever the other members hold. What `Settings.text` writes lists every setting, so
it is read back as the settings that were written.
-/

namespace IdentityDocs.Settings

/-- One setting and the value that it is given. -/
inductive Entry
  | language (value : String)
  | recognizer (value : Backend)
  | command (value : String)
  | modelDirectory (value : Option String)
  | enhanceImages (value : Bool)
  | auditEnabled (value : Bool)

namespace Entry

/-- The name of the setting. -/
def key : Entry → String
  | language _ => "language"
  | recognizer _ => "recognizer"
  | command _ => "tesseract_command"
  | modelDirectory _ => "model_dir"
  | enhanceImages _ => "enhance_images"
  | auditEnabled _ => "audit_enabled"

/-- The settings with the value in place of the one they had. -/
def enter (s : Settings) : Entry → Settings
  | language value => { s with language := value }
  | recognizer value => { s with recognizer := value }
  | command value => { s with command := value }
  | modelDirectory value => { s with modelDirectory := value }
  | enhanceImages value => { s with enhanceImages := value }
  | auditEnabled value => { s with auditEnabled := value }

/-- The JSON values that hold the value of the setting. -/
inductive Holds : Entry → Json → Prop
  | language (value : String) : Holds (.language value) (.string value)
  | recognizer (value : Backend) : Holds (.recognizer value) (.string value.name)
  | recognizerTag (value : Backend) :
    Holds (.recognizer value) (.object [(value.name, .null)])
  | command (value : String) : Holds (.command value) (.string value)
  | noModelDirectory : Holds (.modelDirectory none) .null
  | modelDirectory (value : String) : Holds (.modelDirectory (some value)) (.string value)
  | enhanceImages (value : Bool) : Holds (.enhanceImages value) (.bool value)
  | auditEnabled (value : Bool) : Holds (.auditEnabled value) (.bool value)

end Entry

/-- The members name settings and hold values for them, next to others whose keys are none. -/
inductive Lists : List (String × Json) → List Entry → Prop
  | nil : Lists [] []
  | setting {e : Entry} {value : Json} {members : List (String × Json)} {entries : List Entry} :
    e.Holds value → Lists members entries → Lists ((e.key, value) :: members) (e :: entries)
  | other {key : String} {value : Json} {members : List (String × Json)} {entries : List Entry} :
    key ∉ keys → Lists members entries → Lists ((key, value) :: members) entries

/-! ## Single settings -/

/-- A part of the settings is what the key of that name stands for. -/
structure IsPart {α : Type} (key : String) (read : Json → Option α) (part : Settings → α) :
    Prop where
  mem_keys : key ∈ keys
  other : ∀ (e : Entry) (s : Settings), e.key ≠ key → part (e.enter s) = part s
  read : ∀ (e : Entry) (s : Settings) (value : Json), e.key = key → e.Holds value →
    read value = some (part (e.enter s))

theorem isPart_language : IsPart "language" Json.string? language where
  mem_keys := by decide
  other e s h := by cases e <;> first | rfl | exact absurd rfl h
  read e s value hkey h := by
    cases h with
    | language value => rfl
    | _ => simp [Entry.key] at hkey

theorem isPart_recognizer : IsPart "recognizer" Json.choice? recognizer where
  mem_keys := by decide
  other e s h := by cases e <;> first | rfl | exact absurd rfl h
  read e s value hkey h := by
    cases h with
    | recognizer value => exact Enumerated.ofName?_name value
    | recognizerTag value => exact Enumerated.ofName?_name value
    | _ => simp [Entry.key] at hkey

theorem isPart_command : IsPart "tesseract_command" Json.string? command where
  mem_keys := by decide
  other e s h := by cases e <;> first | rfl | exact absurd rfl h
  read e s value hkey h := by
    cases h with
    | command value => rfl
    | _ => simp [Entry.key] at hkey

theorem isPart_modelDirectory :
    IsPart "model_dir" (Json.optional Json.string?) modelDirectory where
  mem_keys := by decide
  other e s h := by cases e <;> first | rfl | exact absurd rfl h
  read e s value hkey h := by
    cases h with
    | noModelDirectory => rfl
    | modelDirectory value => rfl
    | _ => simp [Entry.key] at hkey

theorem isPart_enhanceImages : IsPart "enhance_images" Json.bool? enhanceImages where
  mem_keys := by decide
  other e s h := by cases e <;> first | rfl | exact absurd rfl h
  read e s value hkey h := by
    cases h with
    | enhanceImages value => rfl
    | _ => simp [Entry.key] at hkey

theorem isPart_auditEnabled : IsPart "audit_enabled" Json.bool? auditEnabled where
  mem_keys := by decide
  other e s h := by cases e <;> first | rfl | exact absurd rfl h
  read e s value hkey h := by
    cases h with
    | auditEnabled value => rfl
    | _ => simp [Entry.key] at hkey

/-! ## Objects -/

theorem member?_cons_of_ne {key other : String} (h : other ≠ key) (value : Json)
    (members : List (String × Json)) :
    Json.member? ((other, value) :: members) key = Json.member? members key := by
  rw [Json.member?, List.filter_cons_of_neg (by simpa using h), ← Json.member?]

/-- A key that no entry has is missing. -/
theorem Lists.member?_eq_none {key : String} {members : List (String × Json)}
    {entries : List Entry} (h : Lists members entries) (hkey : key ∈ keys)
    (hfree : ∀ e ∈ entries, e.key ≠ key) : Json.member? members key = some none := by
  induction h with
  | nil => rfl
  | setting _ _ ih =>
    rw [member?_cons_of_ne (hfree _ List.mem_cons_self)]
    exact ih fun e he => hfree e (List.mem_cons_of_mem _ he)
  | other hother _ ih =>
    rw [member?_cons_of_ne (ne_of_mem_of_not_mem hkey hother).symm]
    exact ih hfree

theorem member?_cons_self {key : String} {value : Json} {members : List (String × Json)}
    (h : Json.member? members key = some none) :
    Json.member? ((key, value) :: members) key = some (some value) := by
  have hnone : members.filter (fun m => decide (m.1 = key)) = [] := by
    unfold Json.member? at h
    split at h
    case h_1 heq => exact heq
    case h_2 => cases h
    case h_3 => cases h
  rw [Json.member?, List.filter_cons_of_pos (by simp), hnone]

variable {α : Type} {key : String} {read : Json → Option α} {part : Settings → α}

theorem IsPart.foldl_enter (h : IsPart key read part) {entries : List Entry}
    (hfree : ∀ e ∈ entries, e.key ≠ key) (s : Settings) :
    part (entries.foldl Entry.enter s) = part s := by
  induction entries generalizing s with
  | nil => rfl
  | cons e entries ih =>
    rw [List.foldl_cons, ih fun e he => hfree e (List.mem_cons_of_mem _ he)]
    exact h.other e s (hfree e List.mem_cons_self)

/-- Each part is read as the one that the listed settings have. -/
theorem IsPart.exists_member? (h : IsPart key read part) {members : List (String × Json)}
    {entries : List Entry} (hlists : Lists members entries)
    (hdistinct : (entries.map Entry.key).Nodup) (s : Settings) :
    ∃ member, Json.member? members key = some member ∧
      fieldOr read (part s) member = some (part (entries.foldl Entry.enter s)) := by
  induction hlists generalizing s with
  | nil => exact ⟨none, rfl, rfl⟩
  | @setting e value members entries hvalue hlists ih =>
    rw [List.map_cons, List.nodup_cons] at hdistinct
    obtain ⟨hfirst, hdistinct⟩ := hdistinct
    by_cases hkey : e.key = key
    · have hfree : ∀ e' ∈ entries, e'.key ≠ key := fun e' he' heq =>
        hfirst (List.mem_map.2 ⟨e', he', heq.trans hkey.symm⟩)
      have hmissing := hlists.member?_eq_none h.mem_keys hfree
      refine ⟨some value, by rw [hkey, member?_cons_self hmissing], ?_⟩
      rw [List.foldl_cons, h.foldl_enter hfree]
      exact h.read e s value hkey hvalue
    · obtain ⟨member, hmember, hread⟩ := ih hdistinct (e.enter s)
      refine ⟨member, by rw [member?_cons_of_ne hkey, hmember], ?_⟩
      rwa [h.other e s hkey] at hread
  | other hother hlists ih =>
    obtain ⟨member, hmember, hread⟩ := ih hdistinct s
    have hne := (ne_of_mem_of_not_mem h.mem_keys hother).symm
    exact ⟨member, by rw [member?_cons_of_ne hne, hmember], hread⟩

/-- An object is read as what it lists over the defaults. -/
theorem ofJson?_object {members : List (String × Json)} {entries : List Entry}
    (h : Lists members entries) (hdistinct : (entries.map Entry.key).Nodup) :
    ofJson? (.object members) = some (entries.foldl Entry.enter {}) := by
  obtain ⟨_, hlanguage, hlanguageRead⟩ := isPart_language.exists_member? h hdistinct {}
  obtain ⟨_, hrecognizer, hrecognizerRead⟩ := isPart_recognizer.exists_member? h hdistinct {}
  obtain ⟨_, hcommand, hcommandRead⟩ := isPart_command.exists_member? h hdistinct {}
  obtain ⟨_, hdirectory, hdirectoryRead⟩ := isPart_modelDirectory.exists_member? h hdistinct {}
  obtain ⟨_, henhance, henhanceRead⟩ := isPart_enhanceImages.exists_member? h hdistinct {}
  obtain ⟨_, haudit, hauditRead⟩ := isPart_auditEnabled.exists_member? h hdistinct {}
  simp only [ofJson?, Json.fieldsOrDefaults?, keys, List.mapM_cons, List.mapM_nil, hlanguage,
    hrecognizer, hcommand, hdirectory, henhance, haudit, hlanguageRead, hrecognizerRead,
    hcommandRead, hdirectoryRead, henhanceRead, hauditRead, Option.bind_eq_bind, Option.bind_some,
    Option.pure_def]

/-- All settings. -/
def entries (s : Settings) : List Entry :=
  [.language s.language, .recognizer s.recognizer, .command s.command,
    .modelDirectory s.modelDirectory, .enhanceImages s.enhanceImages, .auditEnabled s.auditEnabled]

theorem entries_foldl_enter (s t : Settings) : s.entries.foldl Entry.enter t = s := rfl

theorem ofJson?_toJson (s : Settings) : ofJson? s.toJson = some s := by
  have hdirectory : (Entry.modelDirectory s.modelDirectory).Holds
      (s.modelDirectory.elim .null .string) := by
    cases s.modelDirectory with
    | none => exact .noModelDirectory
    | some value => exact .modelDirectory value
  have hlists : Lists _ s.entries :=
    .setting (.language _) <| .setting (.recognizer _) <| .setting (.command _) <|
      .setting hdirectory <| .setting (.enhanceImages _) <| .setting (.auditEnabled _) .nil
  have hdistinct : (s.entries.map Entry.key).Nodup := by
    simp [entries, Entry.key]
  have hread := ofJson?_object hlists hdistinct
  rwa [entries_foldl_enter] at hread

/-! ## Texts -/

theorem plain_toJson (s : Settings) : s.toJson.Plain := by
  have hdirectory : (s.modelDirectory.elim Json.null Json.string).Plain := by
    cases s.modelDirectory <;> trivial
  exact ⟨trivial, trivial, trivial, hdirectory, trivial, trivial, trivial⟩

/-- The text of settings is read as the settings. -/
theorem ofText?_text (s : Settings) : ofText? s.text = some s := by
  rw [ofText?, text, Json.parse?_pretty s.plain_toJson, Option.bind_some, ofJson?_toJson]

/-- The text of an object is read as what the object lists over the defaults. -/
theorem ofText?_of_textOf {members : List (String × Json)} {entries : List Entry} {text : String}
    (htext : Json.TextOf (.object members) text) (h : Lists members entries)
    (hdistinct : (entries.map Entry.key).Nodup) :
    ofText? text = some (entries.foldl Entry.enter {}) := by
  rw [ofText?, htext.parse?, Option.bind_some, ofJson?_object h hdistinct]

end IdentityDocs.Settings
