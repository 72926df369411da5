import Mathlib
import InferenceGateway.Proofs.Json.Reading

/-!
# What records are read as

A record that keeps unknown members is read from an object: each field is what its member means, and
the rest of the object is kept as it is. `Shape.Layout` says where a record under construction has
its fields and its unknown members; from this alone follows what the record is read as.

* `Field`: a field of a record under construction.
* `Shape.Layout`: all fields of a record, and its unknown members.
* `Layout.Fills`: a record under construction is what some members make of it.
* `Layout.reads_record`: a record is read exactly from the objects whose members fill it.
* `Layout.find?_field`, `Layout.find?_other`: what is looked up in a record that is written.
* `Defaulted`, `Given`: what the member of a field means that may be missing.
-/

namespace InferenceGateway.Json

/-- A field of a record under construction. -/
structure Field (σ : Type) where
  key : String
  {Value : Type}
  get : σ → Option Value
  put : Value → σ → σ
  read : Node → Except Error Value
  /-- What the member of the field means. -/
  means : Json → Value → Prop

/--
Where a record under construction has its fields, and the members under other keys. What holds by
looking at one field after the other is proved so.
-/
structure Shape.Layout {σ α : Type} (shape : Shape σ α) (Known : Type) where
  field : Known → Field σ
  /-- The fields, in some order. -/
  all : List Known
  extra : σ → Members
  keep : Members → σ → σ
  objectsOnly : shape.fromList = false := by rfl
  complete : ∀ f, f ∈ all := by intro f; cases f <;> simp
  once : (all.map fun f => (field f).key).Nodup := by decide
  reads : ∀ f, Reads (field f).read (field f).means
  slot_field : ∀ f d, shape.slot d (field f).key
    = .field ((field f).get d) (field f).read (fun v => (field f).put v d) := by
      intro f d; cases f <;> rfl
  slot_other : ∀ key, (key ∉ all.map fun f => (field f).key) → ∀ d, shape.slot d key
    = .fill fun node => node.take.map fun v => keep (Members.insert key v (extra d)) d
  get_empty : ∀ f, (field f).get shape.empty = none := by intro f; cases f <;> rfl
  get_put : ∀ f v d, (field f).get ((field f).put v d) = some v := by
    intro f v d; cases f <;> rfl
  get_put_of_ne : ∀ f g, f ≠ g → ∀ v d, (field f).get ((field g).put v d) = (field f).get d := by
    intro f g ne v d; cases f <;> cases g <;> first | rfl | exact absurd rfl ne
  get_keep : ∀ f ms d, (field f).get (keep ms d) = (field f).get d := by
    intro f ms d; cases f <;> rfl
  extra_empty : extra shape.empty = [] := by rfl
  extra_put : ∀ f v d, extra ((field f).put v d) = extra d := by intro f v d; cases f <;> rfl
  extra_keep : ∀ ms d, extra (keep ms d) = ms := by intro ms d; rfl
  ext : ∀ d e, (∀ f, (field f).get d = (field f).get e) → extra d = extra e → d = e

namespace Shape.Layout

variable {σ α Known : Type} {shape : Shape σ α} {layout : shape.Layout Known}

/-- The keys of the fields. -/
def keys (layout : shape.Layout Known) : List String :=
  layout.all.map fun f => (layout.field f).key

theorem nodup_keys : layout.keys.Nodup := layout.once

theorem mem_keys (layout : shape.Layout Known) (key : String) :
    key ∈ layout.keys ↔ ∃ f, (layout.field f).key = key := by
  constructor
  · intro mem
    obtain ⟨f, -, same⟩ := List.mem_map.mp mem
    exact ⟨f, same⟩
  · rintro ⟨f, rfl⟩
    exact List.mem_map_of_mem (layout.complete f)

theorem key_mem (f : Known) : (layout.field f).key ∈ layout.keys :=
  (layout.mem_keys _).mpr ⟨f, rfl⟩

theorem key_ne_of_ne {f g : Known} (ne : f ≠ g) : (layout.field f).key ≠ (layout.field g).key :=
  fun same =>
    ne (List.inj_on_of_nodup_map layout.once (layout.complete f) (layout.complete g) same)

/-- A key of no field is the key of none of them. -/
theorem key_ne_of_not_mem {key : String} (other : key ∉ layout.keys) (f : Known) :
    key ≠ (layout.field f).key :=
  fun eq => other (eq ▸ key_mem f)

/-! ## One member after the other -/

/-- A record under construction is what some members make of it. -/
structure Fills (layout : shape.Layout Known) (ms : Members) (d : σ) : Prop where
  ordered : ms.Ascending
  fields : ∀ f, Option.Rel (layout.field f).means (Members.find? (layout.field f).key ms)
    ((layout.field f).get d)
  extra : layout.extra d = ms.without layout.keys

theorem fills_empty : layout.Fills [] shape.empty where
  ordered := Members.ascending_nil
  fields f := by
    rw [layout.get_empty f]
    exact .none
  extra := layout.extra_empty

/-- The member of a field is put where it belongs. -/
theorem Fills.put {ms : Members} {d : σ} (h : layout.Fills ms d) {f : Known} {j : Json}
    {v : (layout.field f).Value} (meant : (layout.field f).means j v) :
    layout.Fills (Members.insert (layout.field f).key j ms) ((layout.field f).put v d) where
  ordered := h.ordered.insert _ j
  fields g := by
    rw [Members.find?_insert]
    by_cases same : f = g
    · subst same
      rw [if_pos rfl, layout.get_put]
      exact .some meant
    · rw [if_neg (key_ne_of_ne same), layout.get_put_of_ne g f (Ne.symm same)]
      exact h.fields g
  extra := by
    rw [layout.extra_put, h.extra, h.ordered.without_insert_of_mem (key_mem f)]

/-- A member under another key is kept. -/
theorem Fills.keep {ms : Members} {d : σ} (h : layout.Fills ms d) {key : String}
    (other : key ∉ layout.keys) (j : Json) :
    layout.Fills (Members.insert key j ms)
      (layout.keep (Members.insert key j (layout.extra d)) d) where
  ordered := h.ordered.insert key j
  fields g := by
    rw [Members.find?_insert, if_neg (key_ne_of_not_mem other g), layout.get_keep]
    exact h.fields g
  extra := by
    rw [layout.extra_keep, h.extra, h.ordered.without_insert_of_not_mem other]

/-- Members that are read fill the record with their values. -/
theorem Fills.of_readMembers {members : List Member} {ms : Members} {d e : σ}
    (h : layout.Fills ms d) (ok : shape.readMembers members d = .ok e) :
    ∃ pairs, List.Forall₂ Member.Holds members pairs ∧ layout.Fills (Members.union ms pairs) e := by
  -- the invariant is Fills, for the members so far
  induction members generalizing ms d with
  | nil =>
    cases ok
    exact ⟨[], .nil, h⟩
  | cons m rest ih =>
    obtain ⟨key, refusedKey, node, refusedValue⟩ := m
    simp only [Shape.readMembers, bind_eq_ok_iff] at ok
    obtain ⟨key, rfl, ok⟩ := ok
    by_cases known : key ∈ layout.keys
    · -- A field is read only if it has not been filled yet: no key of a field is given twice.
      obtain ⟨f, rfl⟩ := (layout.mem_keys key).mp known
      rw [layout.slot_field] at ok
      cases filled : (layout.field f).get d with
      | some v =>
        rw [filled] at ok
        cases ok
      | none =>
        rw [filled] at ok
        dsimp only [Slot.field] at ok
        cases got : (layout.field f).read node with
        | error e =>
          rw [got] at ok
          cases ok
        | ok v =>
          rw [got] at ok
          obtain ⟨j, taken, meant⟩ := (layout.reads f).taken got
          obtain ⟨pairs, held, fills⟩ := ih (h.put meant) ok
          exact ⟨(_, j) :: pairs, .cons ⟨rfl, taken⟩ held, fills⟩
    · rw [layout.slot_other key known] at ok
      dsimp only at ok
      cases taken : node.take with
      | error e =>
        rw [taken] at ok
        cases ok
      | ok j =>
        rw [taken] at ok
        obtain ⟨pairs, held, fills⟩ := ih (h.keep known j) ok
        exact ⟨(key, j) :: pairs, .cons ⟨rfl, taken⟩ held, fills⟩

/-! ## Any order of members -/

/-- So far a record under construction has been given some members, out of all that fill `d`. -/
structure Reaches (layout : shape.Layout Known) (d : σ) (done : List (String × Json)) (e : σ) :
    Prop where
  present : ∀ f, (layout.field f).key ∈ done.map Prod.fst →
    (layout.field f).get e = (layout.field f).get d
  absent : ∀ f, (layout.field f).key ∉ done.map Prod.fst → (layout.field f).get e = none
  extra : layout.extra e = (Members.ofList done).without layout.keys

theorem reaches_empty (d : σ) : layout.Reaches d [] shape.empty where
  present _ among := absurd among List.not_mem_nil
  absent f _ := layout.get_empty f
  extra := layout.extra_empty

/-- A member that is given last goes into the object that the others make. -/
theorem ofList_concat (done : List (String × Json)) (pair : String × Json) :
    Members.ofList (done ++ [pair]) = Members.insert pair.1 pair.2 (Members.ofList done) := by
  simp [Members.ofList, List.foldl_append]

/-- One more field has been given. -/
theorem Reaches.put {d e : σ} {done : List (String × Json)} (h : layout.Reaches d done e)
    {f : Known} (j : Json) {v : (layout.field f).Value} (value : (layout.field f).get d = some v) :
    layout.Reaches d (done ++ [((layout.field f).key, j)]) ((layout.field f).put v e) where
  present g among := by
    by_cases same : f = g
    · subst same
      rw [layout.get_put, value]
    -- another field is as it was, and its key is not the one that is added
    · have ne : (layout.field g).key ≠ (layout.field f).key := key_ne_of_ne (Ne.symm same)
      rw [layout.get_put_of_ne g f (Ne.symm same)]
      refine h.present g ?_
      simpa [ne] using among
  absent g missing := by
    simp only [List.map_append, List.map_cons, List.map_nil, List.mem_append, List.mem_singleton,
      not_or] at missing
    have ne : g ≠ f := fun eq => missing.2 (eq ▸ rfl)
    rw [layout.get_put_of_ne g f ne]
    exact h.absent g missing.1
  extra := by
    rw [layout.extra_put, h.extra, ofList_concat,
      (Members.ascending_ofList done).without_insert_of_mem (key_mem f)]

/-- One more unknown member has been given. -/
theorem Reaches.keep {d e : σ} {done : List (String × Json)} (h : layout.Reaches d done e)
    {key : String} (other : key ∉ layout.keys) (j : Json) :
    layout.Reaches d (done ++ [(key, j)])
      (layout.keep (Members.insert key j (layout.extra e)) e) where
  present g among := by
    have ne : (layout.field g).key ≠ key := (key_ne_of_not_mem other g).symm
    rw [layout.get_keep]
    refine h.present g ?_
    simpa [ne] using among
  absent g missing := by
    rw [layout.get_keep]
    refine h.absent g fun among => missing ?_
    rw [List.map_append]
    exact List.mem_append_left _ among
  extra := by
    rw [layout.extra_keep, h.extra, ofList_concat,
      (Members.ascending_ofList done).without_insert_of_not_mem other]

/-- When all members have been given, there is nothing left to fill. -/
theorem Reaches.eq {d e : σ} {pairs : List (String × Json)}
    (h : layout.Reaches d pairs e) (fills : layout.Fills (Members.ofList pairs) d) : e = d := by
  refine layout.ext e d (fun f => ?_) (h.extra.trans fills.extra.symm)
  by_cases among : (layout.field f).key ∈ pairs.map Prod.fst
  · exact h.present f among
  · have missing : Members.find? (layout.field f).key (Members.ofList pairs) = none := by
      rw [Members.find?_ofList, Members.find?_eq_none_iff]
      intro m reversed same
      exact among (same ▸ List.mem_map_of_mem (List.mem_reverse.mp reversed))
    have unfilled := fills.fields f
    rw [missing] at unfilled
    rw [h.absent f among]
    cases value : (layout.field f).get d with
    | none => rfl
    | some v =>
      rw [value] at unfilled
      cases unfilled

/-- Members that fill a record are read into it, in whatever order they are given. -/
theorem Reaches.readMembers_eq_ok {d e : σ} {done pairs : List (String × Json)}
    {members : List Member} (h : layout.Reaches d done e)
    (fills : layout.Fills (Members.ofList (done ++ pairs)) d)
    (once : ((done ++ pairs).map Prod.fst).Nodup) (plain : ∀ m ∈ members, m.2.2.1.Plain)
    (held : List.Forall₂ Member.Holds members pairs) :
    shape.readMembers members e = .ok d := by
  -- members move one by one from those to come to those given; Reaches is the invariant
  induction held generalizing done e with
  | nil =>
    rw [List.append_nil] at fills
    rw [← h.eq fills]
    rfl
  | @cons m pair rest pairs first others ih =>
    obtain ⟨key, refusedKey, node, refusedValue⟩ := m
    obtain ⟨name, j⟩ := pair
    obtain ⟨rfl, taken⟩ := first
    obtain ⟨plainFirst, plainOthers⟩ := List.forall_mem_cons.mp plain
    have split : done ++ (name, j) :: pairs = (done ++ [(name, j)]) ++ pairs := by simp
    have mem : (name, j) ∈ done ++ (name, j) :: pairs :=
      List.mem_append_right _ List.mem_cons_self
    have new : name ∉ done.map Prod.fst := by
      intro among
      rw [List.map_append, List.map_cons] at once
      exact (List.nodup_append.mp once).2.2 name among name List.mem_cons_self rfl
    simp only [Shape.readMembers, bind_eq_ok_iff]
    refine ⟨name, rfl, ?_⟩
    by_cases known : name ∈ layout.keys
    · -- The member is among all that fill `d`, so `d` has a value here, and `e` has none so far.
      obtain ⟨f, rfl⟩ := (layout.mem_keys name).mp known
      have filled := fills.fields f
      rw [Members.find?_ofList_of_nodup once,
        (Members.find?_eq_some_iff_of_nodup once).mpr mem] at filled
      cases value : (layout.field f).get d with
      | none =>
        rw [value] at filled
        cases filled
      | some v =>
        rw [value] at filled
        cases filled with
        | some meant =>
          have got := (layout.reads f).reads plainFirst taken meant
          rw [layout.slot_field, h.absent f new]
          dsimp only [Slot.field]
          rw [got]
          rw [split] at fills once
          exact ih (h.put j value) fills once plainOthers
    · rw [layout.slot_other name known]
      dsimp only
      rw [taken]
      rw [split] at fills once
      exact ih (h.keep known j) fills once plainOthers

/-! ## Whole records -/

/-- An object means a record that its members fill. -/
def Means (layout : shape.Layout Known) (j : Json) (a : α) : Prop :=
  ∃ ms d, j = .object ms ∧ layout.Fills ms d ∧ shape.finish d = .ok a

/-- The keys of members that hold values are told apart as those of the values. -/
theorem nodup_of_holds {members : List Member} {pairs : List (String × Json)}
    (held : List.Forall₂ Member.Holds members pairs) (once : (members.map Prod.fst).Nodup) :
    (pairs.map Prod.fst).Nodup := by
  rw [Member.map_fst_of_holds held] at once
  exact once.of_map

/-- A record is read from the objects that mean it. -/
theorem reads_record (layout : shape.Layout Known) :
    Reads (Node.readRecord shape) layout.Means where
  taken {node a} ok := by
    cases node with
    | object level members ending start =>
      simp only [Node.readRecord, bind_eq_ok_iff] at ok
      obtain ⟨⟨⟩, depth, d, members, ⟨⟩, ended, ok⟩ := ok
      obtain ⟨pairs, held, fills⟩ := fills_empty.of_readMembers members
      refine ⟨_, Node.take_eq_ok_iff.mpr (.object depth ended held), _, d, rfl, fills, ?_⟩
      cases finished : shape.finish d with
      | error cause =>
        rw [finished] at ok
        cases ok
      | ok a' =>
        rw [finished] at ok
        cases ok
        rfl
    | list level items ending start =>
      simp only [Node.readRecord, layout.objectsOnly] at ok
      cases ok
    | _ => cases ok
  reads {node j a} plain taken meant := by
    obtain ⟨ms, d, rfl, fills, finished⟩ := meant
    cases Node.take_eq_ok_iff.mp taken with
    | object depth ended held =>
      cases plain with
      | object once within =>
        -- no key is given twice, so that the order of the members does not matter
        have read :=
          (reaches_empty d).readMembers_eq_ok fills (nodup_of_holds held once) within held
        simp only [Node.readRecord, bind_eq_ok_iff]
        refine ⟨(), depth, d, read, (), ended, ?_⟩
        rw [finished]
        rfl

/-! ## Writing -/

section

variable {ms : Members} {known : List (String × Json)}

/-- What is looked up under the key of a field is what is written for the field. -/
theorem find?_field (ordered : ms.Ascending) (within : (known.map Prod.fst).Sublist layout.keys)
    (f : Known) :
    Members.find? (layout.field f).key
        (Members.union (Members.ofList known) (ms.without layout.keys))
      = Members.find? (layout.field f).key known := by
  rw [Members.find?_union_without ordered nodup_keys within, if_pos (key_mem f)]

/-- What is looked up under any other key is there as it was. -/
theorem find?_other (ordered : ms.Ascending) (within : (known.map Prod.fst).Sublist layout.keys)
    {key : String} (other : key ∉ layout.keys) :
    Members.find? key (Members.union (Members.ofList known) (ms.without layout.keys))
      = Members.find? key ms := by
  rw [Members.find?_union_without ordered nodup_keys within, if_neg other]

end

end Shape.Layout

/-! ## Members that may be missing -/

variable {α : Type} {means : Json → α → Prop} {o : Option Json}

/-- What the member of a field means that must be there. -/
def Needed (means : Json → α → Prop) (o : Option Json) (a : α) : Prop :=
  ∃ j, o = some j ∧ means j a

/-- What the member of a field means that has a default. -/
inductive Defaulted (means : Json → α → Prop) (default : α) : Option Json → α → Prop where
  | missing : Defaulted means default none default
  | given {j : Json} {a : α} (meant : means j a) : Defaulted means default (some j) a

/-- What the member of a field means that may be missing; null counts as missing. -/
inductive Given (means : Json → α → Prop) : Option Json → Option α → Prop where
  | missing : Given means none none
  | null : Given means (some .null) none
  | value {j : Json} {a : α} (present : j ≠ .null) (meant : means j a) :
    Given means (some j) (some a)

/-- The member of a field that has to be there. -/
theorem needed_iff {name : String} {a : α} :
    Needed means o a ↔ ∃ v, Option.Rel means o v ∧ required name v = .ok a := by
  constructor
  · rintro ⟨j, rfl, meant⟩
    exact ⟨some a, .some meant, rfl⟩
  · rintro ⟨_, meant | _, found⟩
    · cases found
      exact ⟨_, rfl, meant⟩
    · cases found

/-- The member of a field with a default. -/
theorem defaulted_iff {default a : α} :
    Defaulted means default o a ↔ ∃ v, Option.Rel means o v ∧ v.getD default = a := by
  constructor
  · rintro (_ | meant)
    · exact ⟨none, .none, rfl⟩
    · exact ⟨some a, .some meant, rfl⟩
  · rintro ⟨_, meant | _, rfl⟩
    · exact .given meant
    · exact .missing

/-- The member of a field that may be missing or null, which is the same. -/
theorem given_iff {a : Option α} :
    Given means o a ↔ ∃ v, Option.Rel (Nullable means) o v ∧ v.join = a := by
  constructor
  · rintro (_ | _ | ⟨present, meant⟩)
    · exact ⟨none, .none, rfl⟩
    · exact ⟨some none, .some .null, rfl⟩
    · exact ⟨some _, .some (.value present meant), rfl⟩
  · rintro ⟨_, (_ | ⟨present, meant⟩) | _, rfl⟩
    · exact .null
    · exact .value present meant
    · exact .missing

end InferenceGateway.Json
