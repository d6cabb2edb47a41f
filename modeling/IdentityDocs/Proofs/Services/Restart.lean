import IdentityDocs.Proofs.Document.Settings
import IdentityDocs.Proofs.Files.Database
import IdentityDocs.Proofs.Text.Utf8
import IdentityDocs.Services.Desk

/-!
# Settings survive a restart

A desk that closes leaves its databases in files that can be opened again, and the file of the
settings lies apart from them and from all that opening them touches. So whoever opens the data
directory the next time finds the settings that were saved there, whatever was done in the meantime
with documents.
-/

namespace IdentityDocs

/-! ## Databases are read back -/

/-- If each thing that was written can be read, so can the list of them. -/
theorem exists_mapM_map {α β γ : Type} {write : α → γ} {read : γ → Option β}
    (h : ∀ a, ∃ b, read (write a) = some b) (l : List α) :
    ∃ bs, (l.map write).mapM read = some bs := by
  induction l with
  | nil => exact ⟨[], rfl⟩
  | cons a l ih =>
    obtain ⟨b, hb⟩ := h a
    obtain ⟨bs, hbs⟩ := ih
    exact ⟨b :: bs, by simp [List.mapM_cons, hb, hbs]⟩

theorem Json.plainItems_map {α : Type} {f : α → Json} (h : ∀ a, (f a).Plain) (l : List α) :
    PlainItems (l.map f) := by
  induction l with
  | nil => trivial
  | cons a l ih => exact ⟨h a, ih⟩

theorem Json.plain_optional (value : Option String) : (value.elim null string).Plain := by
  cases value <;> trivial

theorem Json.optional_string? (value : Option String) :
    optional string? (value.elim null string) = some value := by
  cases value <;> rfl

/-- What was saved is read as the value that was written. -/
theorem DatabaseForm.ofFile?_bytes {α : Type} {form : DatabaseForm α} {db : α}
    (h : (form.write db).Plain) :
    form.ofFile? (form.bytes db) .database = form.read? (form.write db) := by
  rw [ofFile?, bytes, Text.decode?_encode, Option.bind_some, Json.parse?_compact h,
    Option.bind_some]

theorem Row.plain_toJson (row : Row) : row.toJson.Plain :=
  ⟨trivial, trivial, trivial, trivial, trivial, Json.plain_optional _, trivial, trivial,
    Json.plain_optional _, Json.plain_optional _, trivial, trivial, trivial⟩

theorem Row.exists_ofJson?_toJson (row : Row) : ∃ row', ofJson? row.toJson = some row' := by
  simp [toJson, ofJson?, optionalColumn, Json.optional_string?]

/-- Every record store can be opened again. -/
theorem Store.exists_ofFile?_bytes (s : Store) :
    ∃ s', form.ofFile? (form.bytes s) .database = some s' := by
  have hplain : (form.write s).Plain := by
    cases s with
    | mk table => cases table with
      | none => exact ⟨trivial, trivial⟩
      | some rows => exact ⟨Json.plainItems_map Row.plain_toJson rows, trivial⟩
  rw [DatabaseForm.ofFile?_bytes hplain]
  cases s with
  | mk table => cases table with
    | none => exact ⟨.empty, rfl⟩
    | some rows =>
      obtain ⟨rows', hrows⟩ := exists_mapM_map Row.exists_ofJson?_toJson rows
      exact ⟨⟨some rows'⟩, by simp [form, hrows]⟩

theorem Audit.Item.plain_toJson (item : Item) : item.toJson.Plain :=
  ⟨trivial, trivial, trivial, trivial, trivial, Json.plain_optional _, trivial⟩

theorem Audit.Item.ofJson?_toJson (item : Item) : ofJson? item.toJson = some item := by
  simp [toJson, ofJson?, Json.optional_string?]

/-- Every audit log can be opened again. -/
theorem Audit.Log.exists_ofFile?_bytes (log : Log) :
    ∃ log', form.ofFile? (form.bytes log) .database = some log' := by
  have hplain : (form.write log).Plain := by
    cases log with
    | mk items => cases items with
      | none => exact ⟨trivial, trivial⟩
      | some items => exact ⟨Json.plainItems_map Item.plain_toJson items, trivial⟩
  rw [DatabaseForm.ofFile?_bytes hplain]
  cases log with
  | mk items => cases items with
    | none => exact ⟨.empty, rfl⟩
    | some items =>
      obtain ⟨items', hitems⟩ :=
        exists_mapM_map (fun item => ⟨item, Item.ofJson?_toJson item⟩) items
      exact ⟨⟨some items'⟩, by simp [form, hitems]⟩

/-! ## Desks -/

namespace Desk

open FileSystem DatabaseForm

/-- The desk is that of a data directory, and its databases are there. -/
structure Opened (d : Desk) (directory : Path) : Prop where
  kept : d.directory = some directory
  documents : d.world.files.HasFile (directory.join documentsFile)
  audit : d.world.files.HasFile (directory.join auditFile)

/-- The names of the files in a data directory keep them apart. -/
theorem files_lieApart :
    (LiesApart settingsFile documentsFile ∧ LiesApart settingsFile auditFile) ∧
      (LiesApart auditFile documentsFile ∧ LiesApart documentsFile auditFile) ∧
      LiesBeside documentsFile documentsFile ∧ LiesBeside auditFile auditFile := by
  decide +kernel

theorem settings_liesApart_documents : LiesApart settingsFile documentsFile := files_lieApart.1.1

theorem settings_liesApart_audit : LiesApart settingsFile auditFile := files_lieApart.1.2

theorem audit_liesApart_documents : LiesApart auditFile documentsFile := files_lieApart.2.1.1

theorem documents_liesApart_audit : LiesApart documentsFile auditFile := files_lieApart.2.1.2

variable {directory : Path} {d : Desk}

/-- A desk that closes leaves its databases and the settings that were kept. -/
theorem find_close (h : d.Opened directory) {bytes : List UInt8}
    (hread : d.world.files.read (directory.join settingsFile) = .ok bytes) :
    (∃ loc, d.close.find (directory.join documentsFile) =
      .ok (loc, .file (Store.form.bytes d.world.store) .database)) ∧
    (∃ loc, d.close.find (directory.join auditFile) =
      .ok (loc, .file (Audit.Log.form.bytes d.world.log) .database)) ∧
    ∃ loc kind, d.close.find (directory.join settingsFile) = .ok (loc, .file bytes kind) := by
  obtain ⟨hkept, ⟨loc, _, _, hdocuments⟩, ⟨loc', _, _, haudit⟩⟩ := h
  obtain ⟨loc'', kind, hsettings⟩ := exists_find_of_read hread
  have hdocuments := find_save Store.form d.world.store hdocuments
  have haudit := audit_liesApart_documents.find_save Store.form d.world.store haudit
  have hsettings := settings_liesApart_documents.find_save Store.form d.world.store hsettings
  simp only [close, hkept]
  exact ⟨⟨loc, documents_liesApart_audit.find_save Audit.Log.form d.world.log hdocuments⟩,
    ⟨loc', find_save Audit.Log.form d.world.log haudit⟩,
    ⟨loc'', kind, settings_liesApart_audit.find_save Audit.Log.form d.world.log hsettings⟩⟩

theorem load_of_ok {files between after : FileSystem} {store : Store} {log : Audit.Log}
    (hstore : Store.form.load files (directory.join documentsFile) = (between, .ok store))
    (hlog : Audit.Log.form.load between (directory.join auditFile) = (after, .ok log))
    (now : Instant) : load files directory now = (after, .ok {
      world := { files := after, store, log, now }
      directory := some directory
      settings := loadSettings after directory }) := by
  simp only [load, Store.load, Audit.Log.load, hstore, hlog]

/-- The data directory of a desk that has closed can be opened again, and the settings that are
kept there are found. -/
theorem exists_load_close (h : d.Opened directory) {bytes : List UInt8}
    (hread : d.world.files.read (directory.join settingsFile) = .ok bytes) (now : Instant) :
    ∃ files next, load d.close directory now = (files, .ok next) ∧
      next.settings = ((Text.decode? bytes).bind Settings.ofText?).getD {} := by
  obtain ⟨⟨_, hdocuments⟩, ⟨_, haudit⟩, ⟨_, _, hsettings⟩⟩ := find_close h hread
  obtain ⟨store, hstore⟩ := d.world.store.exists_ofFile?_bytes
  obtain ⟨log, hlog⟩ := d.world.log.exists_ofFile?_bytes
  have hloadStore := load_of_find hdocuments hstore
  have haudit := audit_liesApart_documents.find_load hloadStore haudit
  have hloadLog := load_of_find haudit hlog
  have hsettings := settings_liesApart_documents.find_load hloadStore hsettings
  have hsettings := settings_liesApart_audit.find_load hloadLog hsettings
  refine ⟨_, _, load_of_ok hloadStore hloadLog now, ?_⟩
  simp only [loadSettings, read_of_find hsettings]

/-- What opening a data directory gives is a desk that is open. -/
theorem opened_of_load {files after : FileSystem} {now : Instant}
    (h : load files directory now = (after, .ok d)) : d.Opened directory := by
  cases hstore : Store.form.load files (directory.join documentsFile) with
  | mk between store => cases store with
    | error fault => cases fault <;> simp [load, Store.load, hstore] at h
    | ok store => cases hlog : Audit.Log.form.load between (directory.join auditFile) with
      | mk after' log => cases log with
        | error fault => simp [load, Store.load, Audit.Log.load, hstore, hlog] at h
        | ok log =>
          rw [load_of_ok hstore hlog now, Prod.mk.injEq, Except.ok.injEq] at h
          obtain ⟨rfl, rfl⟩ := h
          obtain ⟨loc, bytes, kind, hdocuments⟩ := hasFile_of_load files_lieApart.2.2.1 hstore
          exact ⟨rfl, ⟨loc, bytes, kind, documents_liesApart_audit.find_load hlog hdocuments⟩,
            hasFile_of_load files_lieApart.2.2.2 hlog⟩

/-- Where no device swallows them, the settings that were saved are kept. -/
theorem saveSettings_of_ok {d' : Desk} {s : Settings} (h : d.Opened directory)
    (hdevice : ∀ loc bytes, d.world.files.find (directory.join settingsFile) ≠
      .ok (loc, .file bytes .void))
    (hsave : d.saveSettings s = (d', .ok ())) :
    d'.Opened directory ∧ d'.settings = s ∧
      d'.world.files.read (directory.join settingsFile) = .ok (Text.encode s.text) := by
  obtain ⟨hkept, ⟨loc, bytes, kind, hdocuments⟩, ⟨loc', bytes', kind', haudit⟩⟩ := h
  simp only [saveSettings, hkept] at hsave
  split at hsave
  case h_1 files hwrite =>
    rw [Prod.mk.injEq] at hsave
    obtain ⟨rfl, -⟩ := hsave
    have hdocuments := settings_liesApart_documents.find_write hwrite hdocuments
    have haudit := settings_liesApart_audit.find_write hwrite haudit
    refine ⟨⟨rfl, ⟨loc, bytes, kind, hdocuments⟩, ⟨loc', bytes', kind', haudit⟩⟩, rfl, ?_⟩
    rcases find_of_write hwrite with ⟨place, content, hfind, -⟩ | ⟨place, kind, -, -, hfind⟩
    · exact absurd hfind (hdevice place content)
    · exact read_of_find hfind
  case h_2 => simp at hsave

end Desk

/-- **Saved settings survive a restart.** The text that is written of settings is read as these
settings. A desk that was opened in a data directory and has saved settings there, in a file that is
not a device, has these settings, and so does every desk that is opened there after the desk of that
directory has closed with the file as it was saved: the data directory can be opened, too. And the
text of an object is read as the defaults with what it lists of the settings put over them: the keys
may come in any order, any of them may be missing, and members of other keys may hold anything. -/
theorem settings_survive_restart :
    (∀ s : Settings, Settings.ofText? s.text = some s) ∧
    (∀ (files after : FileSystem) (directory : Path) (now : Instant) (d : Desk),
      Desk.load files directory now = (after, .ok d) → d.Opened directory) ∧
    (∀ (d d' : Desk) (directory : Path) (s : Settings), d.Opened directory →
      (∀ loc bytes, d.world.files.find (directory.join Desk.settingsFile) ≠
        .ok (loc, .file bytes .void)) →
      d.saveSettings s = (d', .ok ()) →
      d'.Opened directory ∧ d'.settings = s ∧
        ∀ last : Desk, last.Opened directory →
          last.world.files.read (directory.join Desk.settingsFile) =
            d'.world.files.read (directory.join Desk.settingsFile) →
          ∀ now, ∃ files next, Desk.load last.close directory now = (files, .ok next) ∧
            next.settings = s) ∧
    (∀ (members : List (String × Json)) (entries : List Settings.Entry) (text : String),
      Json.TextOf (.object members) text → Settings.Lists members entries →
      (entries.map Settings.Entry.key).Nodup →
      Settings.ofText? text = some (entries.foldl Settings.Entry.enter {})) := by
  refine ⟨Settings.ofText?_text, ?opened, ?restart, ?objects⟩
  case opened =>
    intro files after directory now d hload
    exact Desk.opened_of_load hload
  case restart =>
    intro d d' directory s hopened hdevice hsave
    obtain ⟨hopened', hsettings, hread⟩ := Desk.saveSettings_of_ok hopened hdevice hsave
    refine ⟨hopened', hsettings, fun last hlast hkept now => ?_⟩
    obtain ⟨files, next, hload, hnext⟩ := Desk.exists_load_close hlast (hkept.trans hread) now
    refine ⟨files, next, hload, ?_⟩
    rw [hnext, Text.decode?_encode, Option.bind_some, Settings.ofText?_text, Option.getD_some]
  case objects =>
    intro members entries text htext hlists hdistinct
    exact Settings.ofText?_of_textOf htext hlists hdistinct

/-- A root directory with databases that are new. -/
def newRoot : FileSystem where
  nodes :=
    [([Desk.documentsFile.bytes], .file [] .plain), ([Desk.auditFile.bytes], .file [] .plain)]
  current := []

/-- Settings whose text needs escapes and bytes above 127. -/
def Settings.escaped : Settings :=
  { language := "\"\\\n\x01é😀", recognizer := .ocrs, modelDirectory := some "/m",
    auditEnabled := false }

/-- An object with a key that is no setting, white space in front of a colon, and an escape where
none is needed. -/
theorem textOf_escapedName :
    Json.TextOf (.object [("y", .array [.null]), ("recognizer", .string "ocrs")])
      "\x7b\"y\":[null],\"recognizer\" : \"o\\u0063rs\"\x7d" := by
  have hunit : Json.UnitText ['0', '0', '6', '3'] 0x63 :=
    ⟨_, _, _, _, 0, 0, 6, 3, rfl, Json.hexDigit_digitChar (d := 0) (by omega),
      Json.hexDigit_digitChar (d := 0) (by omega), Json.hexDigit_digitChar (d := 6) (by omega),
      Json.hexDigit_digitChar (d := 3) (by omega), rfl⟩
  have hescape : Json.StringText "\\u0063rs".toList (some "crs".toList) :=
    .unit hunit (by unfold Json.IsHigh; omega) (by unfold Json.IsLow; omega)
      (Json.stringText_escaped "rs".toList)
  have hname : Json.Spells (.value (.string "ocrs")) "\"o\\u0063rs\"".toList :=
    .string (.plain (by decide) (by decide) (by decide) hescape)
  have hlist : Json.Spells (.value (.array [.null])) "[null]".toList :=
    .array (.lastItem Json.isSpace_nil .nullText Json.isSpace_nil)
  have hother := Json.keyText_stringText Json.isSpace_nil "y"
  have hkey : Json.KeyText "\"recognizer\" :".toList (some "recognizer") :=
    ⟨[], _, [' '], _, rfl, Json.isSpace_nil, Json.stringText_escaped "recognizer".toList,
      Json.isSpace_blank, rfl⟩
  have hmembers := Json.Spells.nextMember hother Json.isSpace_nil hlist Json.isSpace_nil
    (.lastMember hkey Json.isSpace_blank hname Json.isSpace_nil)
  exact ⟨[], _, [], rfl, Json.isSpace_nil, .object hmembers, Json.isSpace_nil⟩

/-- Settings full of escapes survive, and a text that names one setting is read. -/
theorem escaped_settings_survive :
    (∃ after d d' files next, Desk.load newRoot (.ofText "/") ⟨0, 0⟩ = (after, .ok d) ∧
      d.saveSettings .escaped = (d', .ok ()) ∧
      Desk.load d'.close (.ofText "/") ⟨1, 0⟩ = (files, .ok next) ∧ next.settings = .escaped) ∧
    Settings.ofText? "\x7b\"y\":[null],\"recognizer\" : \"o\\u0063rs\"\x7d" =
      some { recognizer := .ocrs } := by
  obtain ⟨-, hload, hrestart, hobjects⟩ := settings_survive_restart
  obtain ⟨after, d, hd, hnew, d', hsave⟩ : ∃ after d,
      Desk.load newRoot (.ofText "/") ⟨0, 0⟩ = (after, .ok d) ∧
      d.world.files.find ((Path.ofText "/").join Desk.settingsFile) = .error .notFound ∧
      ∃ d', d.saveSettings .escaped = (d', .ok ()) := ⟨_, _, rfl, rfl, _, rfl⟩
  obtain ⟨hopened, -, hlater⟩ := hrestart d d' _ .escaped (hload _ _ _ _ d hd)
    (by simp [hnew]) hsave
  obtain ⟨files, next, hnext, hsettings⟩ := hlater d' hopened rfl ⟨1, 0⟩
  refine ⟨⟨after, d, d', files, next, hd, hsave, hnext, hsettings⟩, ?_⟩
  exact hobjects _ [.recognizer .ocrs] _ textOf_escapedName
    (.other (by decide) (.setting (.recognizer .ocrs) .nil)) (by decide)

end IdentityDocs
