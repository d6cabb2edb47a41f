import IdentityDocs.Proofs.Document.Fields
import Mathlib.Data.List.Nodup

/-!
# Every place is written once

Fields have three slots and any number of keys, and a write goes to one of these places. Two
equations say all about one write. What a place has afterwards is what it had before, or else what
was written there (`valueAt?_write`); and the write was taken if its place had nothing
(`taken_write`).

Along a run of writes the first equation is an `Option.or` again, of the first write to each place
(`valueAt?_writeAll`). And since a write neither reads nor changes any place but its own, the writes
to some of the places come to the same, there and in the answers, with all others left out
(`AgreeAt.writeAll`). Fields with equal values at all places are equal, so what is shown place by
place holds of the fields.
-/

namespace IdentityDocs

/-! ## Equal values, equal fields -/

namespace TextMap

variable {m n : TextMap}

theorem lookup_eq_some_iff {entries : List (String × String)} {key value : String}
    (hsorted : entries.Pairwise (·.1 < ·.1)) :
    entries.lookup key = some value ↔ (key, value) ∈ entries := by
  induction entries with
  | nil => simp
  | cons entry rest ih =>
    obtain ⟨hfirst, hrest⟩ := List.pairwise_cons.1 hsorted
    by_cases hkey : key = entry.1
    · have hlater : (key, value) ∉ rest := by
        intro hmem
        have hlt : entry.1 < key := hfirst _ hmem
        exact String.lt_irrefl _ (hkey ▸ hlt)
      obtain ⟨first, old⟩ := entry
      obtain rfl : key = first := hkey
      simp [hlater, eq_comm]
    · have hne : (key, value) ≠ entry := by
        rintro rfl
        exact hkey rfl
      have hbeq : (key == entry.1) = false := by simpa using hkey
      rw [List.lookup_cons, hbeq]
      simp [ih hrest, hne]

/-- Maps with the same value for every key are equal. -/
theorem eq_of_get? (h : ∀ key, m.get? key = n.get? key) : m = n := by
  have hmem : ∀ entry, entry ∈ m.entries ↔ entry ∈ n.entries := by
    rintro ⟨key, value⟩
    have hkey : m.entries.lookup key = n.entries.lookup key := h key
    rw [← lookup_eq_some_iff m.sorted, ← lookup_eq_some_iff n.sorted, hkey]
  have hnodup : ∀ k : TextMap, k.entries.Nodup := by
    intro k
    refine k.sorted.imp ?_
    rintro a _ hlt rfl
    exact String.lt_irrefl _ hlt
  have hperm : m.entries.Perm n.entries :=
    (List.perm_ext_iff_of_nodup (hnodup m) (hnodup n)).2 hmem
  refine TextMap.ext (hperm.eq_of_pairwise ?_ m.sorted n.sorted)
  intro a b _ _ hab hba
  exact absurd hab (String.lt_asymm hba)

end TextMap

namespace Fields

/-- What takes one value: a slot, or a key of the labelled values. -/
inductive Place
  | slot (slot : Field)
  | label (key : String)
  deriving DecidableEq

/-- A value for a place. -/
structure Write where
  place : Place
  value : String

/-- The value that a place has. -/
def valueAt? (fields : Fields) : Place → Option String
  | .slot slot => (fields.get slot).value?
  | .label key => fields.labels.get? key

theorem eq_of_valueAt? {fields fields' : Fields}
    (h : ∀ place, fields.valueAt? place = fields'.valueAt? place) : fields = fields' := by
  have hslot : ∀ slot, fields.get slot = fields'.get slot := by
    intro slot
    exact FieldValue.value?_injective (h (.slot slot))
  have hlabels : fields.labels = fields'.labels := by
    refine TextMap.eq_of_get? ?_
    intro key
    exact h (.label key)
  cases fields
  cases fields'
  simp only [mk.injEq]
  exact ⟨hslot .idNumber, hslot .name, hslot .dateOfBirth, hlabels⟩

/-! ## One write -/

/-- Makes a write; tells whether it was taken. -/
def write (fields : Fields) (w : Write) : Fields × Bool :=
  match w.place with
  | .slot slot => fields.fill slot w.value
  | .label key => fields.fillLabel key w.value

/-- What a write puts into a place, if it goes there. -/
def Write.valueFor? (w : Write) (place : Place) : Option String :=
  if w.place = place then some w.value else none

variable {w w' : Write} {place : Place}

theorem Write.valueFor?_eq_none_iff : w.valueFor? place = none ↔ w.place ≠ place := by
  simp [valueFor?]

/-- A place keeps the value it has, or takes the one written there. -/
theorem valueAt?_write (fields : Fields) (w : Write) (place : Place) :
    (fields.write w).1.valueAt? place = (fields.valueAt? place).or (w.valueFor? place) := by
  obtain ⟨target, value⟩ := w
  cases target with
  | slot slot =>
    cases place with
    | slot other => simp [write, valueAt?, Write.valueFor?, value?_get_fill]
    | label key => simp [write, valueAt?, Write.valueFor?]
  | label key =>
    cases place with
    | slot slot => simp [write, valueAt?, Write.valueFor?]
    | label other => simp [write, valueAt?, Write.valueFor?, get?_labels_fillLabel]

/-- A write is taken if its place has no value. -/
theorem taken_write (fields : Fields) (w : Write) :
    (fields.write w).2 = (fields.valueAt? w.place).isNone := by
  obtain ⟨target, value⟩ := w
  cases target with
  | slot slot =>
    cases hslot : fields.get slot with
    | notFound => simp [write, fill, valueAt?, hslot, FieldValue.value?]
    | found old => simp [write, fill, valueAt?, hslot, FieldValue.value?]
  | label key =>
    cases hkey : fields.labels.get? key with
    | none => simp [write, fillLabel, valueAt?, hkey]
    | some old => simp [write, fillLabel, valueAt?, hkey]

theorem valueAt?_write_of_ne (fields : Fields) (h : w.place ≠ place) :
    (fields.write w).1.valueAt? place = fields.valueAt? place := by
  rw [valueAt?_write, Write.valueFor?_eq_none_iff.2 h, Option.or_none]

/-- A write to one place does not decide whether a write to another is taken. -/
theorem taken_write_write (fields : Fields) (h : w.place ≠ w'.place) :
    ((fields.write w).1.write w').2 = (fields.write w').2 := by
  rw [taken_write, taken_write, valueAt?_write_of_ne fields h]

/-- Writes to different places can be made in either order. -/
theorem write_comm (fields : Fields) (h : w.place ≠ w'.place) :
    ((fields.write w).1.write w').1 = ((fields.write w').1.write w).1 := by
  refine eq_of_valueAt? ?_
  intro place
  simp only [valueAt?_write, Option.or_assoc]
  by_cases hplace : w.place = place
  · have hother : w'.valueFor? place = none := Write.valueFor?_eq_none_iff.2 (hplace ▸ h.symm)
    rw [hother, Option.or_none, Option.none_or]
  · rw [Write.valueFor?_eq_none_iff.2 hplace, Option.or_none, Option.none_or]

/-! ## Runs -/

/-- Makes writes one after another; tells of each whether it was taken. -/
def writeAll (fields : Fields) : List Write → Fields × List (Write × Bool)
  | [] => (fields, [])
  | w :: ws =>
    let rest := (fields.write w).1.writeAll ws
    (rest.1, (w, (fields.write w).2) :: rest.2)

theorem writeAll_append (ws ws' : List Write) : ∀ fields : Fields,
    fields.writeAll (ws ++ ws') = (((fields.writeAll ws).1.writeAll ws').1,
      (fields.writeAll ws).2 ++ ((fields.writeAll ws).1.writeAll ws').2) := by
  induction ws with
  | nil => exact fun fields => rfl
  | cons w ws ih =>
    intro fields
    simp only [List.cons_append, writeAll, ih]

theorem map_fst_writeAll (ws : List Write) : ∀ fields : Fields,
    (fields.writeAll ws).2.map Prod.fst = ws := by
  induction ws with
  | nil => exact fun fields => rfl
  | cons w ws ih =>
    intro fields
    simp only [writeAll, List.map_cons, ih]

/-- A place keeps the value it has, or takes that of the first write to it. -/
theorem valueAt?_writeAll (ws : List Write) (place : Place) : ∀ fields : Fields,
    (fields.writeAll ws).1.valueAt? place =
      (fields.valueAt? place).or (ws.findSome? (·.valueFor? place)) := by
  induction ws with
  | nil => exact fun fields => Option.or_none.symm
  | cons w ws ih =>
    intro fields
    rw [writeAll, ih, valueAt?_write, Option.or_assoc, List.findSome?_cons]
    cases w.valueFor? place <;> simp

/-- The value is that of the first of the writes to the place. -/
def FirstAt (ws : List Write) (place : Place) (value : String) : Prop :=
  ∃ before after, ws = before ++ ⟨place, value⟩ :: after ∧
    ∀ earlier ∈ before, earlier.place ≠ place

theorem findSome?_valueFor?_eq_none {ws : List Write} :
    ws.findSome? (·.valueFor? place) = none ↔ ∀ w ∈ ws, w.place ≠ place := by
  simp only [List.findSome?_eq_none_iff, Write.valueFor?_eq_none_iff]

theorem findSome?_valueFor?_eq_some {ws : List Write} {value : String} :
    ws.findSome? (·.valueFor? place) = some value ↔ FirstAt ws place value := by
  simp only [List.findSome?_eq_some_iff, Write.valueFor?_eq_none_iff, FirstAt]
  constructor
  · rintro ⟨before, w, after, rfl, hvalue, hbefore⟩
    obtain ⟨target, written⟩ := w
    obtain ⟨rfl, rfl⟩ : target = place ∧ written = value := by simpa [Write.valueFor?] using hvalue
    exact ⟨before, after, rfl, hbefore⟩
  · rintro ⟨before, after, rfl, hbefore⟩
    exact ⟨before, _, after, rfl, if_pos rfl, hbefore⟩

theorem valueAt?_new (place : Place) : ({} : Fields).valueAt? place = none := by
  cases place with
  | slot slot => cases slot <;> rfl
  | label key => rfl

/-- What writes to new fields come to. Each place has the value of the first write to it, or none if
none went there, and of all writes the first to a place was taken. -/
structure FirstKept (ws : List Write) (fields : Fields) (answers : List (Write × Bool)) : Prop where
  slot : ∀ slot value, fields.get slot = .found value ↔ FirstAt ws (.slot slot) value
  unset : ∀ slot, fields.get slot = .notFound ↔ ∀ w ∈ ws, w.place ≠ .slot slot
  label : ∀ key value, fields.labels.get? key = some value ↔ FirstAt ws (.label key) value
  unlabelled : ∀ key, fields.labels.get? key = none ↔ ∀ w ∈ ws, w.place ≠ .label key
  answered : answers.map Prod.fst = ws
  taken : ∀ before w taken after, answers = before ++ (w, taken) :: after →
    (taken = true ↔ ∀ earlier ∈ before, earlier.1.place ≠ w.place)

/-- The answer to a write tells whether its place had no value when it was made. -/
theorem taken_of_writeAll {fields : Fields} {ws : List Write} {before after : List (Write × Bool)}
    {taken : Bool} (h : (fields.writeAll ws).2 = before ++ (w, taken) :: after) :
    taken = ((fields.writeAll (before.map Prod.fst)).1.valueAt? w.place).isNone := by
  have hws : ws = before.map Prod.fst ++ w :: after.map Prod.fst := by
    rw [← map_fst_writeAll ws fields, h, List.map_append, List.map_cons]
  have hlength : (fields.writeAll (before.map Prod.fst)).2.length = before.length := by
    rw [← List.length_map Prod.fst, map_fst_writeAll, List.length_map]
  rw [hws, writeAll_append, writeAll] at h
  obtain ⟨-, htail⟩ := List.append_inj h hlength
  have hanswer := (Prod.mk.inj (List.cons.inj htail).1).2
  rw [← hanswer, taken_write]

theorem firstKept_writeAll (ws : List Write) :
    FirstKept ws (({} : Fields).writeAll ws).1 (({} : Fields).writeAll ws).2 := by
  have hvalue : ∀ ws place, (({} : Fields).writeAll ws).1.valueAt? place =
      ws.findSome? (·.valueFor? place) := by
    intro ws place
    rw [valueAt?_writeAll, valueAt?_new, Option.none_or]
  have hslot : ∀ slot, ((({} : Fields).writeAll ws).1.get slot).value? =
      ws.findSome? (·.valueFor? (.slot slot)) := fun slot => hvalue ws (.slot slot)
  have hlabel : ∀ key, (({} : Fields).writeAll ws).1.labels.get? key =
      ws.findSome? (·.valueFor? (.label key)) := fun key => hvalue ws (.label key)
  refine ⟨?slot, ?unset, ?label, ?unlabelled, map_fst_writeAll ws _, ?taken⟩
  case slot =>
    intro slot value
    rw [← FieldValue.value?_eq_some, hslot, findSome?_valueFor?_eq_some]
  case unset =>
    intro slot
    rw [← FieldValue.value?_eq_none, hslot, findSome?_valueFor?_eq_none]
  case label =>
    intro key value
    rw [hlabel, findSome?_valueFor?_eq_some]
  case unlabelled =>
    intro key
    rw [hlabel, findSome?_valueFor?_eq_none]
  case taken =>
    intro before w taken after h
    rw [taken_of_writeAll h, hvalue, Option.isNone_iff_eq_none, findSome?_valueFor?_eq_none]
    simp only [List.forall_mem_map]

/-! ## Other places -/

/-- The fields have the same values at the places that a test picks. -/
def AgreeAt (pick : Place → Bool) (fields fields' : Fields) : Prop :=
  ∀ place, pick place = true → fields.valueAt? place = fields'.valueAt? place

namespace AgreeAt

variable {pick : Place → Bool} {fields fields' : Fields}

theorem write (h : AgreeAt pick fields fields') (w : Write) :
    AgreeAt pick (fields.write w).1 (fields'.write w).1 := by
  intro place hplace
  rw [valueAt?_write, valueAt?_write, h place hplace]

theorem write_left (h : AgreeAt pick fields fields') (hw : pick w.place = false) :
    AgreeAt pick (fields.write w).1 fields' := by
  intro place hplace
  have hne : w.place ≠ place := by
    rintro rfl
    rw [hw] at hplace
    cases hplace
  rw [valueAt?_write_of_ne fields hne, h place hplace]

/-- At the places picked, all writes come to what those to these places come to, and these are
answered alike. -/
theorem writeAll (ws : List Write) : ∀ {fields fields' : Fields}, AgreeAt pick fields fields' →
    AgreeAt pick (fields.writeAll ws).1 (fields'.writeAll (ws.filter (pick ·.place))).1 ∧
    (fields.writeAll ws).2.filter (pick ·.1.place) =
      (fields'.writeAll (ws.filter (pick ·.place))).2 := by
  induction ws with
  | nil => exact fun h => ⟨h, rfl⟩
  | cons w ws ih =>
    intro fields fields' h
    -- a write to a picked place is made on both sides, any other on the left alone
    by_cases hw : pick w.place = true
    · obtain ⟨hvalues, hanswers⟩ := ih (h.write w)
      have htaken : (fields.write w).2 = (fields'.write w).2 := by
        rw [taken_write, taken_write, h w.place hw]
      have hws : (w :: ws).filter (pick ·.place) = w :: ws.filter (pick ·.place) :=
        List.filter_cons_of_pos hw
      simp only [hws, Fields.writeAll, List.filter_cons, hw, if_true, hanswers, htaken]
      exact ⟨hvalues, trivial⟩
    · obtain ⟨hvalues, hanswers⟩ := ih (h.write_left (Bool.eq_false_iff.2 hw))
      have hws : (w :: ws).filter (pick ·.place) = ws.filter (pick ·.place) :=
        List.filter_cons_of_neg hw
      simp only [hws, Fields.writeAll, List.filter_cons, hw, Bool.false_eq_true, if_false, hanswers]
      exact ⟨hvalues, trivial⟩

end AgreeAt

theorem writeAll_filter (fields : Fields) (ws : List Write) (pick : Place → Bool) :
    AgreeAt pick (fields.writeAll ws).1 (fields.writeAll (ws.filter (pick ·.place))).1 ∧
    (fields.writeAll ws).2.filter (pick ·.1.place) =
      (fields.writeAll (ws.filter (pick ·.place))).2 :=
  AgreeAt.writeAll ws fun _ _ => rfl

theorem writeAll_swap (fields : Fields) (before after : List Write) (h : w.place ≠ w'.place) :
    ∃ early taken taken' late, early.map Prod.fst = before ∧
      (fields.writeAll (before ++ w :: w' :: after)).2 =
        early ++ (w, taken) :: (w', taken') :: late ∧
      (fields.writeAll (before ++ w' :: w :: after)).2 =
        early ++ (w', taken') :: (w, taken) :: late ∧
      (fields.writeAll (before ++ w :: w' :: after)).1 =
        (fields.writeAll (before ++ w' :: w :: after)).1 := by
  have hearly := map_fst_writeAll before fields
  rw [writeAll_append, writeAll_append]
  generalize (fields.writeAll before).2 = early at hearly
  generalize (fields.writeAll before).1 = next
  have hfields := write_comm next h
  have htaken := taken_write_write next h
  have htaken' := taken_write_write next h.symm
  refine ⟨early, (next.write w).2, (next.write w').2,
    (((next.write w).1.write w').1.writeAll after).2, hearly, ?_, ?_, ?_⟩
  · simp only [writeAll, htaken]
  · simp only [writeAll, htaken', hfields]
  · simp only [writeAll, hfields]

/-- Whether the place is one of the three slots. -/
def Place.isSlot : Place → Bool
  | .slot _ => true
  | .label _ => false

/-- **Every place is written once.** After any writes to new fields each slot and each key has the
value of the first write to it, be it the empty text, and none if none went there; and a write was
taken just if none to its place came before. Two writes to different places, next to each other in
a run, can change places: the fields come out the same, and so does every answer. What the slots
come to is no matter of the labelled values, nor the other way round; and whichever places are
picked, the writes to them come to the same, and are answered alike, if all others are left out. -/
theorem places_written_once :
    (∀ ws, FirstKept ws (({} : Fields).writeAll ws).1 (({} : Fields).writeAll ws).2) ∧
    (∀ (fields : Fields) before w w' after, w.place ≠ w'.place →
      ∃ early taken taken' late, early.map Prod.fst = before ∧
      (fields.writeAll (before ++ w :: w' :: after)).2 =
        early ++ (w, taken) :: (w', taken') :: late ∧
      (fields.writeAll (before ++ w' :: w :: after)).2 =
        early ++ (w', taken') :: (w, taken) :: late ∧
      (fields.writeAll (before ++ w :: w' :: after)).1 =
        (fields.writeAll (before ++ w' :: w :: after)).1) ∧
    (∀ (fields : Fields) ws slot, (fields.writeAll ws).1.get slot =
      (fields.writeAll (ws.filter (·.place.isSlot))).1.get slot) ∧
    (∀ (fields : Fields) ws, (fields.writeAll ws).1.labels =
      (fields.writeAll (ws.filter (!·.place.isSlot))).1.labels) ∧
    (∀ (fields : Fields) ws pick,
      AgreeAt pick (fields.writeAll ws).1 (fields.writeAll (ws.filter (pick ·.place))).1 ∧
      (fields.writeAll ws).2.filter (pick ·.1.place) =
        (fields.writeAll (ws.filter (pick ·.place))).2) := by
  refine ⟨firstKept_writeAll, ?swap, ?slots, ?labels, writeAll_filter⟩
  case swap =>
    intro fields before w w' after h
    exact writeAll_swap fields before after h
  case slots =>
    intro fields ws slot
    have hagree := (writeAll_filter fields ws Place.isSlot).1
    exact FieldValue.value?_injective (hagree (.slot slot) rfl)
  case labels =>
    intro fields ws
    have hagree := (writeAll_filter fields ws (!·.isSlot)).1
    refine TextMap.eq_of_get? ?_
    intro key
    exact hagree (.label key) rfl

/-- A name and a label of the same name, both written twice, the name with the empty text first. -/
def sampleWrites : List Write :=
  [⟨.slot .name, ""⟩, ⟨.label "name", "JOHN DOE"⟩, ⟨.slot .name, "JANE ROE"⟩, ⟨.label "name", ""⟩]

/-- The sample with its two writes in the middle in the other order. -/
def swappedWrites : List Write :=
  [⟨.slot .name, ""⟩, ⟨.slot .name, "JANE ROE"⟩, ⟨.label "name", "JOHN DOE"⟩, ⟨.label "name", ""⟩]

theorem sampleWrites_written_once :
    (({} : Fields).writeAll sampleWrites).1.get .name = .found "" ∧
    (({} : Fields).writeAll sampleWrites).1.labels.get? "name" = some "JOHN DOE" ∧
    (({} : Fields).writeAll sampleWrites).1.get .idNumber = .notFound ∧
    ∃ early taken taken' late, early.map Prod.fst = [⟨.slot .name, ""⟩] ∧
      (({} : Fields).writeAll sampleWrites).2 = early ++
        (⟨.label "name", "JOHN DOE"⟩, taken) :: (⟨.slot .name, "JANE ROE"⟩, taken') :: late ∧
      (({} : Fields).writeAll swappedWrites).2 = early ++
        (⟨.slot .name, "JANE ROE"⟩, taken') :: (⟨.label "name", "JOHN DOE"⟩, taken) :: late ∧
      (({} : Fields).writeAll sampleWrites).1 = (({} : Fields).writeAll swappedWrites).1 := by
  obtain ⟨hkept, hswap, -⟩ := places_written_once
  have hsample := hkept sampleWrites
  refine ⟨(hsample.slot _ _).2 ⟨[], _, rfl, by simp⟩, (hsample.label _ _).2 ⟨[_], _, rfl, by simp⟩,
    (hsample.unset _).2 (by simp [sampleWrites]), ?_⟩
  exact hswap {} [⟨.slot .name, ""⟩] _ _ [⟨.label "name", ""⟩] (by decide)

end Fields

end IdentityDocs
