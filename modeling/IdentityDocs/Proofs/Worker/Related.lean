import IdentityDocs.Proofs.Worker.Effects
import Mathlib.Data.List.Forall2

/-!
# Two floors side by side

Two histories that differ in little can be followed side by side: the runs are related, one by one,
and so are the worlds. What a step keeps of this and what a call keeps of it, all events keep
(`Floor.Related.afterAll`).

In the tables the rows may differ in their comments, and a relation `R` says for every document
which comments may take the place of which. The store never looks at comments, so whatever is asked
of it leaves tables that agree as they agree (`Table.AgreeUpTo.effect`).
-/

namespace IdentityDocs

/-! ## Lists and options -/

section Lists

variable {α β : Type} {R : α → β → Prop} {l : List α} {l' : List β}

theorem forall₂_getElem? (h : List.Forall₂ R l l') (i : Nat) : Option.Rel R l[i]? l'[i]? := by
  induction h generalizing i with
  | nil => exact .none
  | cons hab _ ih =>
    cases i with
    | zero => exact .some hab
    | succ i => exact ih i

theorem forall₂_set (h : List.Forall₂ R l l') (i : Nat) {a : α} {b : β} (hab : R a b) :
    List.Forall₂ R (l.set i a) (l'.set i b) := by
  induction h generalizing i with
  | nil => exact .nil
  | cons hcd htail ih =>
    cases i with
    | zero => exact .cons hab htail
    | succ i => exact .cons hcd (ih i)

/-- What is stored is there in both cases or in neither, and what becomes of it is related if what
it was is. -/
theorem rel_option_map {γ δ : Type} {S : γ → δ → Prop} {f : α → γ} {g : β → δ} {a : Option α}
    {b : Option β} (h : Option.Rel R a b) (hfg : ∀ x y, R x y → S (f x) (g y)) :
    Option.Rel S (a.map f) (b.map g) := by
  cases h with
  | some hxy => exact .some (hfg _ _ hxy)
  | none => exact .none

end Lists

/-! ## Rows -/

namespace Row

variable {R : String → Option String → Option String → Prop} {row row' : Row}

/-- The rows agree in everything but the times of the last change and the comments, and the comments
are related as they may be on this document. -/
structure AgreeUpTo (R : String → Option String → Option String → Prop) (row row' : Row) :
    Prop where
  id : row.id = row'.id
  owner : row.owner = row'.owner
  kind : row.kind = row'.kind
  path : row.path = row'.path
  uploadName : row.uploadName = row'.uploadName
  mimeType : row.mimeType = row'.mimeType
  status : row.status = row'.status
  confidence : row.confidence = row'.confidence
  extractedData : row.extractedData = row'.extractedData
  createdAt : row.createdAt = row'.createdAt
  comments : R row.id row.comments row'.comments

namespace AgreeUpTo

theorem refl (hrefl : ∀ id comments, R id comments comments) (row : Row) : row.AgreeUpTo R row :=
  ⟨rfl, rfl, rfl, rfl, rfl, rfl, rfl, rfl, rfl, rfl, hrefl row.id row.comments⟩

theorem of_untimed (h : row.untimed.AgreeUpTo R row') : row.AgreeUpTo R row' := { h with }

theorem untimed (h : row.AgreeUpTo R row') : row.untimed.AgreeUpTo R row' := { h with }

theorem admits (h : row.AgreeUpTo R row') (statuses : List VerificationStatus) :
    Table.admits statuses row = Table.admits statuses row' := by
  simp only [Table.admits, h.status]

theorem marked (h : row.AgreeUpTo R row') (now now' : Instant) :
    (row.marked now).AgreeUpTo R (row'.marked now') := by
  unfold Row.marked
  rw [h.admits]
  split
  · exact { h with status := rfl }
  · exact h

/-- Results may differ in their notes, as far as comments may. -/
theorem analysed (h : row.AgreeUpTo R row') {r r' : AnalysisResult} (hstatus : r.status = r'.status)
    (hconfidence : r.confidence = r'.confidence) (hdata : r.extractedData = r'.extractedData)
    (hnotes : R row.id (Table.storedNotes r) (Table.storedNotes r')) (now now' : Instant) :
    (row.analysed r now).AgreeUpTo R (row'.analysed r' now') := by
  unfold Row.analysed
  rw [h.admits]
  split
  · exact { h with
      status := by rw [hstatus]
      confidence := by rw [hconfidence]
      extractedData := by rw [hdata]
      comments := hnotes }
  · exact h

theorem reviewed (hrefl : ∀ id comments, R id comments comments) (h : row.AgreeUpTo R row')
    (status : VerificationStatus) (comments : Option String) (now : Instant) :
    (row.reviewed status comments now).AgreeUpTo R (row'.reviewed status comments now) := by
  unfold Row.reviewed
  rw [h.admits]
  split
  · exact h
  · exact { h with status := rfl, comments := hrefl row.id comments }

end AgreeUpTo

end Row

/-! ## Tables -/

/-- The rows of the tables agree, one by one. -/
abbrev Table.AgreeUpTo (R : String → Option String → Option String → Prop) (t t' : Table) : Prop :=
  List.Forall₂ (Row.AgreeUpTo R) t t'

namespace Table.AgreeUpTo

variable {R : String → Option String → Option String → Prop} {t t' : Table}

theorem refl (hrefl : ∀ id comments, R id comments comments) (t : Table) :
    Table.AgreeUpTo R t t :=
  List.forall₂_same.2 fun row _ => .refl hrefl row

theorem onDocument (h : Table.AgreeUpTo R t t') (document : String) {change change' : Row → Row}
    (hchange : ∀ row row' : Row, row.AgreeUpTo R row' → row.id = document →
      (change row).AgreeUpTo R (change' row')) :
    Table.AgreeUpTo R (t.onDocument document change) (t'.onDocument document change') := by
  unfold Table.onDocument
  rw [Table.AgreeUpTo, List.forall₂_map_left_iff, List.forall₂_map_right_iff]
  refine h.imp fun row row' hrow => ?_
  by_cases hid : row.id = document
  · simpa only [← hrow.id, if_pos hid] using hchange row row' hrow hid
  · simpa only [← hrow.id, if_neg hid] using hrow

theorem has (h : Table.AgreeUpTo R t t') (id : DocumentId) : t.has id = t'.has id := by
  induction h with
  | nil => rfl
  | cons hrow _ ih =>
    simp only [Table.has, List.any_cons, hrow.id] at ih ⊢
    rw [ih]

theorem delete (h : Table.AgreeUpTo R t t') (id : DocumentId) :
    Table.AgreeUpTo R (t.delete id) (t'.delete id) :=
  List.rel_filter (fun row row' hrow => by simp only [hrow.id]) h

/-- What anybody asks of the store leaves tables that agree as they agree. -/
theorem effect (hrefl : ∀ id comments, R id comments comments) (h : Table.AgreeUpTo R t t')
    (op : Store.Operation) : Table.AgreeUpTo R (op.effect t) (op.effect t') := by
  cases op with
  | insert r =>
    simp only [Store.Operation.effect, h.has]
    split
    · exact h
    · exact List.rel_append h (.cons (.refl hrefl _) .nil)
  | mark id now => exact h.onDocument id.text fun _ _ hrow _ => hrow.marked now now
  | update id r now =>
    simp only [Store.Operation.effect]
    split
    · exact h
    · exact h.onDocument id.text fun _ _ hrow _ => hrow.analysed rfl rfl rfl (hrefl _ _) now now
  | review id status comments now =>
    simp only [Store.Operation.effect]
    split
    · exact h.onDocument id.text fun _ _ hrow _ => hrow.reviewed hrefl status comments now
    · exact h
  | delete id => exact h.delete id
  | get | all | ofOwner | reviewQueue => exact h

end Table.AgreeUpTo

/-! ## The floor -/

namespace Floor

/-- The runs are related, one by one, and so are the worlds. -/
structure Related (R : Run → Run → Prop) (S : World → World → Prop) (f f' : Floor) : Prop where
  runs : List.Forall₂ R f.runs f'.runs
  world : S f.world f'.world

namespace Related

variable {R : Run → Run → Prop} {S : World → World → Prop} {p : Nat → Pipeline} {audited : Bool}
  {f f' : Floor}

variable
  (hstep : ∀ (p : Pipeline) (run run' : Run) (w w' : World), R run run' → S w w' →
    R (run.step p audited w).1 (run'.step p audited w').1 ∧
      S (run.step p audited w).2 (run'.step p audited w').2)
include hstep

/-- A turn keeps what a step keeps. -/
theorem turn (h : f.Related R S f') (i : Nat) :
    (f.turn p audited i).Related R S (f'.turn p audited i) := by
  have hrun := forall₂_getElem? h.runs i
  generalize hrun₁ : f.runs[i]? = run₁ at hrun
  generalize hrun₂ : f'.runs[i]? = run₂ at hrun
  cases hrun with
  | none => rwa [turn_of_none hrun₁, turn_of_none hrun₂]
  | some hrelated =>
    obtain ⟨hnext, hworld⟩ := hstep (p i) _ _ _ _ hrelated h.world
    rw [turn_of_some hrun₁, turn_of_some hrun₂]
    exact ⟨forall₂_set h.runs i hnext, hworld⟩

variable
  (hcall : ∀ (op : Store.Operation) (w w' : World), S w w' →
    S { w with store := w.store.after op } { w' with store := w'.store.after op })
include hcall

theorem after (h : f.Related R S f') (e : Event) :
    (f.after p audited e).Related R S (f'.after p audited e) := by
  cases e with
  | turn i => exact h.turn hstep i
  | call op => exact ⟨h.runs, hcall op _ _ h.world⟩

/-- What steps and calls keep, all events keep. -/
theorem afterAll (events : List Event) : ∀ {f f' : Floor}, f.Related R S f' →
    (f.afterAll p audited events).Related R S (f'.afterAll p audited events) := by
  induction events with
  | nil => exact fun h => h
  | cons e events ih => exact fun h => ih (h.after hstep hcall e)

end Related

end Floor

end IdentityDocs
