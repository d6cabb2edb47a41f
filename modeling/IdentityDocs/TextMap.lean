/-!
# Maps from texts to texts

A finite map kept as a list of entries in ascending order of the keys, by code point. The order is
part of the type, so equal maps are equal lists, and listing a map shows it sorted.
-/

namespace IdentityDocs

/-- A map from texts to texts. -/
structure TextMap where
  /-- The entries, by ascending key. -/
  entries : List (String × String)
  sorted : entries.Pairwise (·.1 < ·.1) := by simp

namespace TextMap

/-- Enters a value into an ascending list; the value that the key had before gives way. -/
def place (key value : String) : List (String × String) → List (String × String)
  | [] => [(key, value)]
  | entry :: rest =>
    if key < entry.1 then (key, value) :: entry :: rest
    else if key = entry.1 then (key, value) :: rest
    else entry :: place key value rest

theorem mem_place {key value : String} {l : List (String × String)} {e : String × String}
    (h : e ∈ place key value l) : e = (key, value) ∨ e ∈ l := by
  induction l with
  | nil => simpa [place] using h
  | cons entry rest ih => grind [place]

theorem pairwise_place {key value : String} {l : List (String × String)}
    (h : l.Pairwise (·.1 < ·.1)) : (place key value l).Pairwise (·.1 < ·.1) := by
  induction l with
  | nil => simp [place]
  | cons entry rest ih =>
    have ⟨hhead, htail⟩ := List.pairwise_cons.1 h
    unfold place
    split
    · rename_i hlt
      refine List.pairwise_cons.2 ⟨fun e he => ?_, h⟩
      rcases List.mem_cons.1 he with rfl | he
      · exact hlt
      · exact String.lt_trans hlt (hhead e he)
    · split
      · rename_i heq
        exact List.pairwise_cons.2 ⟨fun e he => heq ▸ hhead e he, htail⟩
      · rename_i hlt hne
        refine List.pairwise_cons.2 ⟨fun e he => ?_, ih htail⟩
        rcases mem_place he with rfl | he
        · have := String.not_lt.1 hlt
          grind
        · exact hhead e he

/-- The map without entries. -/
def empty : TextMap := ⟨[], List.Pairwise.nil⟩

instance : Inhabited TextMap := ⟨empty⟩

/-- The value of a key. -/
def get? (m : TextMap) (key : String) : Option String := m.entries.lookup key

/-- The map in which the key has the given value. -/
def insert (m : TextMap) (key value : String) : TextMap :=
  ⟨place key value m.entries, pairwise_place m.sorted⟩

/-- The map in which the key keeps the value it has, and gets the given one if it has none. -/
def insertIfNew (m : TextMap) (key value : String) : TextMap :=
  match m.get? key with
  | some _ => m
  | none => m.insert key value

/-- The map of a list of entries; of two entries for one key the later counts. -/
def ofList (entries : List (String × String)) : TextMap :=
  entries.foldl (fun m e => m.insert e.1 e.2) empty

@[ext] theorem ext {m n : TextMap} (h : m.entries = n.entries) : m = n := by
  cases m; cases n; simp_all

@[simp] theorem get?_empty (key : String) : empty.get? key = none := rfl

theorem lookup_place (key value k : String) (l : List (String × String)) :
    (place key value l).lookup k = if k = key then some value else l.lookup k := by
  induction l with
  | nil => grind [place]
  | cons entry rest ih => grind [place]

@[simp] theorem get?_insert (m : TextMap) (key value k : String) :
    (m.insert key value).get? k = if k = key then some value else m.get? k :=
  lookup_place key value k m.entries

end TextMap

end IdentityDocs
