import InferenceGateway.Registry.Entry

/-!
# Catalogs

The models that clients see, by public id. A catalog is a list of entries in ascending order of
their ids, each id once; `Catalog.insert` keeps it so.

* `Catalog.insert`, `Catalog.addMissing`: a new entry replaces, or yields to, the one of its id.
* `Catalog.find?_insert`, `Catalog.find?_addMissing`: what that means for looking ids up.
-/

namespace InferenceGateway

/-- Entries by public id. -/
abbrev Catalog := List ModelEntry

namespace Catalog

/-- The entry of an id. -/
def find? (id : String) (c : Catalog) : Option ModelEntry :=
  List.find? (fun e => e.id == id) c

/-- Puts an entry in place of an earlier one of its id. -/
def insert (e : ModelEntry) : Catalog → Catalog
  | [] => [e]
  | d :: rest =>
    if e.id < d.id then e :: d :: rest
    else if e.id = d.id then e :: rest
    else d :: Catalog.insert e rest

/-- Puts an entry unless its id has one. -/
def addMissing (c : Catalog) (e : ModelEntry) : Catalog :=
  match Catalog.find? e.id c with
  | some _ => c
  | none => Catalog.insert e c

theorem find?_insert (e : ModelEntry) (id : String) (c : Catalog) :
    Catalog.find? id (Catalog.insert e c) = if e.id = id then some e else Catalog.find? id c := by
  induction c with
  | nil => by_cases h : e.id = id <;> simp [insert, find?, h]
  | cons d rest ih =>
    unfold insert
    split
    · by_cases h : e.id = id <;> simp [find?, h]
    · split
      · next heq => by_cases h : e.id = id <;> simp_all [find?]
      · next hne =>
        by_cases hd : d.id = id
        · subst hd
          simp [find?, hne]
        · have hd' : (d.id == id) = false := by simpa using hd
          simp only [find?, List.find?_cons, hd'] at ih ⊢
          exact ih

theorem find?_addMissing (e : ModelEntry) (id : String) (c : Catalog) :
    Catalog.find? id (Catalog.addMissing c e)
      = (Catalog.find? id c).or (if e.id = id then some e else none) := by
  unfold addMissing
  split
  · next d hd =>
    by_cases h : e.id = id
    · subst h; simp [hd]
    · simp [h]
  · next hn =>
    rw [find?_insert]
    by_cases h : e.id = id
    · subst h; simp [hn]
    · simp [h]

end Catalog

end InferenceGateway
