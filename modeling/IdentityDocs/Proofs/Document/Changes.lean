import IdentityDocs.Proofs.Document.Settings
import IdentityDocs.Proofs.Text.Pieces

/-!
# Settings are changed one at a time

Whoever changes a setting has one copy of the settings and changes it in place. `assign` goes
through the names one after another: a name whose text must not be empty, but is, falls through to
the refusals behind, and a text may turn out to be no flag and no backend after its name was
recognized. `run_assign` says that in all these cases nothing was assigned yet.

Whether a call is taken is a matter of its two texts alone (`Entry.ofCall`), and a call that is taken
enters one value. So what holds of calls is read off entries: of two for one setting the later one
stays (`Entry.enter_enter`), and two for different settings can be entered in either order
(`Entry.enter_comm`).
-/

namespace IdentityDocs

namespace Settings

/-! ## Calls -/

/-- Changes the setting of the given name in place. -/
def assign (key text : String) : EStateM ConfigurationError Settings Unit := do
  let value := Text.trimmed text
  if key = "language" ∧ value ≠ "" then
    modify fun s => { s with language := value }
  else if key = "recognizer" then
    let backend ← ofExcept (Backend.parse value)
    modify fun s => { s with recognizer := backend }
  else if key = "tesseract_command" ∧ value ≠ "" then
    modify fun s => { s with command := value }
  else if key = "model_dir" then
    modify fun s => { s with modelDirectory := if value = "" then none else some value }
  else if key = "enhance_images" then
    let flag ← ofExcept (parseFlag key value)
    modify fun s => { s with enhanceImages := flag }
  else if key = "audit_enabled" then
    let flag ← ofExcept (parseFlag key value)
    modify fun s => { s with auditEnabled := flag }
  else if key = "language" ∨ key = "tesseract_command" then
    throw (.emptySetting key)
  else
    throw (.unknownSetting key keys)

/-- The settings after a call, whether it was taken or refused. -/
def after (s : Settings) (call : String × String) : Settings :=
  match (assign call.1 call.2).run s with
  | .ok _ t => t
  | .error _ t => t

/-- The settings after calls with these names and texts, one after another. -/
def afterAll (s : Settings) (calls : List (String × String)) : Settings := calls.foldl after s

/-- The value that a call enters, or why it is refused. -/
def Entry.ofCall (key text : String) : Except ConfigurationError Entry :=
  let value := Text.trimmed text
  match key with
  | "language" => (nonEmpty key value).map .language
  | "recognizer" => (Backend.parse value).map .recognizer
  | "tesseract_command" => (nonEmpty key value).map .command
  | "model_dir" => .ok (.modelDirectory (if value = "" then none else some value))
  | "enhance_images" => (parseFlag key value).map .enhanceImages
  | "audit_enabled" => (parseFlag key value).map .auditEnabled
  | _ => .error (.unknownSetting key keys)

/-- How a call ends that enters a value or is refused. -/
def ending (s : Settings) :
    Except ConfigurationError Entry → EStateM.Result ConfigurationError Settings Unit
  | .ok e => .ok () (e.enter s)
  | .error fault => .error fault s

theorem map_map {ε α β γ : Type} (x : Except ε α) (f : α → β) (g : β → γ) :
    (x.map f).map g = x.map fun a => g (f a) := by
  cases x <;> rfl

/-- What a call gives is what it enters. -/
theorem set_eq (s : Settings) (key text : String) :
    s.set key text = (Entry.ofCall key text).map fun e => e.enter s := by
  unfold Entry.ofCall
  split
  case h_1 => rw [map_map]; rfl
  case h_2 => rw [map_map]; rfl
  case h_3 => rw [map_map]; rfl
  case h_4 => rfl
  case h_5 => rw [map_map]; rfl
  case h_6 => rw [map_map]; rfl
  case h_7 =>
    simp only [set]
    rfl

theorem run_read {α : Type} (read : Except ConfigurationError α) (make : α → Entry)
    (s : Settings) : EStateM.run (do let a ← ofExcept read; modify fun s => (make a).enter s) s =
      ending s (read.map make) := by
  cases read <;> rfl

/-- A call in place ends with the value entered, or with the settings as they were. -/
theorem run_assign (s : Settings) (key text : String) :
    (assign key text).run s = ending s (Entry.ofCall key text) := by
  -- the cases are the six names and any other key
  unfold Entry.ofCall
  split
  case h_1 =>
    by_cases hempty : Text.trimmed text = ""
    · simp [assign, nonEmpty, hempty, Except.map, ending]
    · simp [assign, nonEmpty, hempty, Except.map, ending, Entry.enter, modify]
  case h_2 =>
    rw [← run_read]
    simp only [assign, String.reduceEq, false_and, if_false, if_true, Entry.enter]
  case h_3 =>
    by_cases hempty : Text.trimmed text = ""
    · simp [assign, nonEmpty, hempty, Except.map, ending]
    · simp [assign, nonEmpty, hempty, Except.map, ending, Entry.enter, modify]
  case h_4 => simp [assign, ending, Entry.enter, modify]
  case h_5 =>
    rw [← run_read]
    simp only [assign, String.reduceEq, false_and, if_false, if_true, Entry.enter]
  case h_6 =>
    rw [← run_read]
    simp only [assign, String.reduceEq, false_and, if_false, if_true, Entry.enter]
  case h_7 hlanguage hrecognizer hcommand hdirectory henhance haudit =>
    have hneither : ¬ (key = "language" ∨ key = "tesseract_command") := by
      rintro (h | h)
      · exact hlanguage h
      · exact hcommand h
    rw [assign, if_neg fun h => hlanguage h.1, if_neg hrecognizer, if_neg fun h => hcommand h.1,
      if_neg hdirectory, if_neg henhance, if_neg haudit, if_neg hneither]
    rfl

/-! ## What calls enter -/

/-- A text that is not empty and has no blank at either end. -/
structure Tidy (text : String) : Prop where
  ne_empty : text ≠ ""
  trimmed : Text.Trimmed text.toList

/-- Settings that a recognizer can be started with: a language, a command, and either no directory
or one that has a name. -/
structure Valid (s : Settings) : Prop where
  language : Tidy s.language
  command : Tidy s.command
  modelDirectory : s.modelDirectory ≠ some ""

/-- The settings agree in all parts but the one of the given name. -/
structure AgreeBut (key : String) (s t : Settings) : Prop where
  language : key ≠ "language" → t.language = s.language
  recognizer : key ≠ "recognizer" → t.recognizer = s.recognizer
  command : key ≠ "tesseract_command" → t.command = s.command
  modelDirectory : key ≠ "model_dir" → t.modelDirectory = s.modelDirectory
  enhanceImages : key ≠ "enhance_images" → t.enhanceImages = s.enhanceImages
  auditEnabled : key ≠ "audit_enabled" → t.auditEnabled = s.auditEnabled

/-- Settings stay valid if the entry is made. -/
def Entry.Proper : Entry → Prop
  | language value => Tidy value
  | command value => Tidy value
  | modelDirectory value => value ≠ some ""
  | _ => True

theorem map_eq_ok {ε α β : Type} {x : Except ε α} {f : α → β} {b : β} (h : x.map f = .ok b) :
    ∃ a, x = .ok a ∧ f a = b := by
  cases x with
  | error e => cases h
  | ok a => exact ⟨a, rfl, Except.ok.inj h⟩

theorem tidy_of_nonEmpty {key text value : String}
    (h : nonEmpty key (Text.trimmed text) = .ok value) : Tidy value := by
  unfold nonEmpty at h
  split at h
  case isTrue => cases h
  case isFalse hne =>
    obtain rfl : Text.trimmed text = value := Except.ok.inj h
    refine ⟨hne, ?_⟩
    rw [Text.toList_trimmed]
    exact Text.trimmed_trim text.toList

namespace Entry

variable {e f : Entry} {key text : String}

theorem named_of_ofCall (h : ofCall key text = .ok e) : e.key = key ∧ e.Proper := by
  unfold ofCall at h
  split at h
  case h_1 =>
    obtain ⟨value, hvalue, rfl⟩ := map_eq_ok h
    exact ⟨rfl, tidy_of_nonEmpty hvalue⟩
  case h_2 =>
    obtain ⟨backend, -, rfl⟩ := map_eq_ok h
    exact ⟨rfl, trivial⟩
  case h_3 =>
    obtain ⟨value, hvalue, rfl⟩ := map_eq_ok h
    exact ⟨rfl, tidy_of_nonEmpty hvalue⟩
  case h_4 =>
    obtain rfl := Except.ok.inj h
    refine ⟨rfl, ?_⟩
    change (if Text.trimmed text = "" then none else some (Text.trimmed text)) ≠ some ""
    split
    case isTrue => simp
    case isFalse hne => simpa using hne
  case h_5 =>
    obtain ⟨flag, -, rfl⟩ := map_eq_ok h
    exact ⟨rfl, trivial⟩
  case h_6 =>
    obtain ⟨flag, -, rfl⟩ := map_eq_ok h
    exact ⟨rfl, trivial⟩
  case h_7 => cases h

theorem agreeBut_enter (e : Entry) (s : Settings) : AgreeBut e.key s (e.enter s) where
  language := isPart_language.other e s
  recognizer := isPart_recognizer.other e s
  command := isPart_command.other e s
  modelDirectory := isPart_modelDirectory.other e s
  enhanceImages := isPart_enhanceImages.other e s
  auditEnabled := isPart_auditEnabled.other e s

/-- Of two entries for one setting the later one stays. -/
theorem enter_enter (h : e.key = f.key) (s : Settings) : f.enter (e.enter s) = f.enter s := by
  cases e <;> cases f <;> first | rfl | simp [Entry.key] at h

/-- Entries for different settings can be made in either order. -/
theorem enter_comm (h : e.key ≠ f.key) (s : Settings) :
    f.enter (e.enter s) = e.enter (f.enter s) := by
  cases e <;> cases f <;> first | rfl | exact absurd rfl h

end Entry

theorem Valid.enter {s : Settings} {e : Entry} (hs : s.Valid) (he : e.Proper) :
    (e.enter s).Valid := by
  obtain ⟨hlanguage, hcommand, hdirectory⟩ := hs
  cases e with
  | language value => exact ⟨he, hcommand, hdirectory⟩
  | command value => exact ⟨hlanguage, he, hdirectory⟩
  | modelDirectory value => exact ⟨hlanguage, hcommand, he⟩
  | recognizer value => exact ⟨hlanguage, hcommand, hdirectory⟩
  | enhanceImages value => exact ⟨hlanguage, hcommand, hdirectory⟩
  | auditEnabled value => exact ⟨hlanguage, hcommand, hdirectory⟩

/-! ## Runs -/

variable {s t u : Settings} {key text : String}

theorem run_assign_eq_ok : (assign key text).run s = .ok () t ↔
    ∃ e, Entry.ofCall key text = .ok e ∧ e.enter s = t := by
  rw [run_assign]
  cases hcall : Entry.ofCall key text with
  | error fault => simp [ending]
  | ok e => simp [ending]

theorem run_assign_eq_error {fault : ConfigurationError} :
    (assign key text).run s = .error fault t ↔ Entry.ofCall key text = .error fault ∧ s = t := by
  rw [run_assign]
  cases hcall : Entry.ofCall key text with
  | error fault' => simp [ending]
  | ok e => simp [ending]

theorem after_of_ok {call : String × String} {e : Entry}
    (h : Entry.ofCall call.1 call.2 = .ok e) : after s call = e.enter s := by
  rw [after, run_assign, h]
  rfl

theorem after_of_error {call : String × String} {fault : ConfigurationError}
    (h : Entry.ofCall call.1 call.2 = .error fault) : after s call = s := by
  rw [after, run_assign, h]
  rfl

theorem Valid.after (hs : s.Valid) (call : String × String) : (s.after call).Valid := by
  cases hcall : Entry.ofCall call.1 call.2 with
  | error fault => rwa [after_of_error hcall]
  | ok e =>
    rw [after_of_ok hcall]
    exact hs.enter (Entry.named_of_ofCall hcall).2

theorem Valid.afterAll (hs : s.Valid) (calls : List (String × String)) :
    (s.afterAll calls).Valid := by
  induction calls generalizing s with
  | nil => exact hs
  | cons call calls ih => exact ih (hs.after call)

theorem valid_default : Valid {} := by
  have hlanguage : nonEmpty "language" (Text.trimmed "eng") = .ok "eng" := by rfl
  have hcommand : nonEmpty "tesseract_command" (Text.trimmed "tesseract") = .ok "tesseract" := by
    rfl
  exact ⟨tidy_of_nonEmpty hlanguage, tidy_of_nonEmpty hcommand, by decide⟩

/-- Calls in between do not bring back what a later entry for the same setting covers. -/
theorem enter_afterAll_enter {e f : Entry} (h : e.key = f.key) (calls : List (String × String)) :
    ∀ s : Settings, f.enter (afterAll (e.enter s) calls) = f.enter (afterAll s calls) := by
  induction calls with
  | nil => exact Entry.enter_enter h
  | cons call calls ih =>
    intro s
    have hnext : ∀ r : Settings, afterAll r (call :: calls) = afterAll (r.after call) calls :=
      fun _ => rfl
    rw [hnext, hnext]
    cases hcall : Entry.ofCall call.1 call.2 with
    | error fault =>
      rw [after_of_error hcall, after_of_error hcall]
      exact ih s
    | ok g =>
      rw [after_of_ok hcall, after_of_ok hcall]
      by_cases hkey : e.key = g.key
      · rw [Entry.enter_enter hkey]
      · rw [Entry.enter_comm hkey]
        exact ih (g.enter s)

theorem assign_surrounded (key text : String) {before behind : List Char}
    (hbefore : ∀ c ∈ before, Text.isBlank c = true)
    (hbehind : ∀ c ∈ behind, Text.isBlank c = true) :
    assign key (String.ofList before ++ text ++ String.ofList behind) = assign key text := by
  have htrimmed : Text.trimmed (String.ofList before ++ text ++ String.ofList behind) =
      Text.trimmed text := by
    have hlist : (String.ofList before ++ text ++ String.ofList behind).toList =
        before ++ (text.toList ++ behind) := by simp
    rw [Text.trimmed, hlist, Text.trim_surrounded hbefore hbehind, Text.trimmed]
  unfold assign
  rw [htrimmed]

/-- **Changes of settings stand alone.** A call in place ends as `set` says, and one that is refused
leaves the settings as they were. One that is taken changes no setting but that of its name, and
does nothing when it is repeated. It ends in the same way if an earlier call for the same setting,
taken or refused, had never been made, whatever calls came in between; and two calls that are taken,
for different settings, may be made in either order. Blanks around the text never matter. And after
all calls on new settings these are valid: the language and the command are not empty and have no
blanks around them, and a directory of models is not empty. -/
theorem changes_stand_alone :
    (∀ s key text, (assign key text).run s =
      match s.set key text with
      | .ok t => .ok () t
      | .error fault => .error fault s) ∧
    (∀ s key text fault t, (assign key text).run s = .error fault t → t = s) ∧
    (∀ s key text t, (assign key text).run s = .ok () t →
      AgreeBut key s t ∧ (assign key text).run t = .ok () t) ∧
    (∀ s key earlier text calls t,
      (assign key text).run (afterAll s ((key, earlier) :: calls)) = .ok () t →
      (assign key text).run (afterAll s calls) = .ok () t) ∧
    (∀ s key text key' text' t u, key ≠ key' → (assign key text).run s = .ok () t →
      (assign key' text').run t = .ok () u →
      ∃ t', (assign key' text').run s = .ok () t' ∧ (assign key text).run t' = .ok () u) ∧
    (∀ key text before behind, (∀ c ∈ before, Text.isBlank c = true) →
      (∀ c ∈ behind, Text.isBlank c = true) →
      assign key (String.ofList before ++ text ++ String.ofList behind) = assign key text) ∧
    ∀ calls, Valid (afterAll {} calls) := by
  refine ⟨?set, ?refused, ?taken, ?covered, ?swapped, ?blanks, ?valid⟩
  case set =>
    intro s key text
    rw [run_assign, set_eq]
    cases Entry.ofCall key text <;> rfl
  case refused =>
    intro s key text fault t h
    exact (run_assign_eq_error.1 h).2.symm
  case taken =>
    intro s key text t h
    obtain ⟨e, hcall, rfl⟩ := run_assign_eq_ok.1 h
    obtain ⟨rfl, -⟩ := Entry.named_of_ofCall hcall
    exact ⟨e.agreeBut_enter s, run_assign_eq_ok.2 ⟨e, hcall, Entry.enter_enter rfl s⟩⟩
  case covered =>
    intro s key earlier text calls t h
    obtain ⟨f, hcall, rfl⟩ := run_assign_eq_ok.1 h
    refine run_assign_eq_ok.2 ⟨f, hcall, ?_⟩
    have hnext : afterAll s ((key, earlier) :: calls) =
      afterAll (s.after (key, earlier)) calls := rfl
    rw [hnext]
    cases hearlier : Entry.ofCall key earlier with
    | error fault => rw [after_of_error hearlier]
    | ok e =>
      have hkey : e.key = f.key :=
        (Entry.named_of_ofCall hearlier).1.trans (Entry.named_of_ofCall hcall).1.symm
      rw [after_of_ok hearlier, enter_afterAll_enter hkey]
  case swapped =>
    intro s key text key' text' t u hne h h'
    obtain ⟨e, hcall, rfl⟩ := run_assign_eq_ok.1 h
    obtain ⟨f, hcall', rfl⟩ := run_assign_eq_ok.1 h'
    have hkey : e.key ≠ f.key := by
      rwa [(Entry.named_of_ofCall hcall).1, (Entry.named_of_ofCall hcall').1]
    refine ⟨f.enter s, run_assign_eq_ok.2 ⟨f, hcall', rfl⟩, run_assign_eq_ok.2 ⟨e, hcall, ?_⟩⟩
    exact (Entry.enter_comm hkey s).symm
  case blanks =>
    intro key text before behind hbefore hbehind
    exact assign_surrounded key text hbefore hbehind
  case valid =>
    intro calls
    exact valid_default.afterAll calls

/-- The settings after two calls for the directory of models, with one for the audit log between. -/
theorem sampleCalls_stand_alone :
    (assign "model_dir" " /new\n").run (afterAll {} [("audit_enabled", "No")]) =
      .ok () { modelDirectory := some "/new", auditEnabled := false } ∧
    AgreeBut "recognizer" {} { recognizer := .ocrs } ∧
    (∃ t, (assign "enhance_images" "off").run {} = .ok () t ∧
      (assign "recognizer" "OCRS").run t =
        .ok () { recognizer := .ocrs, enhanceImages := false }) ∧
    (∀ t, (assign "language" " ").run { language := "hin" } = .error (.emptySetting "language") t →
      t = { language := "hin" }) ∧
    assign "recognizer" (String.ofList ['\t'] ++ "OCRS" ++ String.ofList [' ']) =
      assign "recognizer" "OCRS" := by
  obtain ⟨-, hrefused, htaken, hcovered, hswapped, hblanks, -⟩ := changes_stand_alone
  have hocrs : (assign "recognizer" "OCRS").run {} = .ok () { recognizer := .ocrs } := by rfl
  have hoff : (assign "enhance_images" "off").run { recognizer := .ocrs } =
      .ok () { recognizer := .ocrs, enhanceImages := false } := by rfl
  have hdirectory : (assign "model_dir" " /new\n").run
      (afterAll {} [("model_dir", "/old"), ("audit_enabled", "No")]) =
        .ok () { modelDirectory := some "/new", auditEnabled := false } := by rfl
  refine ⟨hcovered {} _ _ _ _ _ hdirectory, (htaken _ _ _ _ hocrs).1, ?_, ?_, ?_⟩
  · exact hswapped {} _ _ _ _ _ _ (by decide) hocrs hoff
  · exact fun t => hrefused _ _ _ _ t
  · exact hblanks _ _ _ _ (List.forall_mem_singleton.mpr rfl) (List.forall_mem_singleton.mpr rfl)

end Settings

end IdentityDocs
