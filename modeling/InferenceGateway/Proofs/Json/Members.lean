import Mathlib
import InferenceGateway.Json.Basic

/-!
# The members of objects

An object is its look-ups: members in key order are equal when the same value is under each key, so
what is put in is all that matters, and not the order in which it is.

* `member?_eq_some_iff`, `string?_eq_some_iff`: which values have members, and which are texts.
* `Members.Ascending`: the order of the keys, which no insertion breaks.
* `Members.ext`: members in order with the same look-ups are the same.
* `Members.find?_union`, `Members.find?_ofList`: of several values for a key, the last one counts.
* `Members.without`: members under none of some keys.
-/

namespace InferenceGateway.Json

/-! ## Looking into values -/

theorem string?_eq_some_iff {j : Json} {s : String} : j.string? = some s ↔ j = .string s := by
  cases j <;> simp [string?]

theorem member?_eq_some_iff {key : String} {j v : Json} :
    j.member? key = some v ↔ ∃ ms, j = .object ms ∧ Members.find? key ms = some v := by
  cases j <;> simp [member?]

end InferenceGateway.Json

namespace InferenceGateway.Json.Members

/-- Every key is less than all later ones. -/
def Ascending (ms : Members) : Prop :=
  ms.Pairwise fun m n => m.1 < n.1

theorem ascending_nil : Ascending [] := List.Pairwise.nil

/-! ## Insertions -/

/-- An insertion brings in nothing but its member. -/
theorem mem_insert {key : String} {value : Json} {m : String × Json} {ms : Members}
    (h : m ∈ Members.insert key value ms) : m = (key, value) ∨ m ∈ ms := by
  induction ms with
  | nil => simpa [Members.insert] using h
  | cons a rest ih =>
    unfold Members.insert at h
    split at h
    · simpa using h
    · split at h
      · rcases List.mem_cons.mp h with rfl | h
        · exact .inl rfl
        · exact .inr (List.mem_cons_of_mem a h)
      · rcases List.mem_cons.mp h with rfl | h
        · exact .inr List.mem_cons_self
        · exact (ih h).imp_right (List.mem_cons_of_mem _)

/-- An insertion keeps the order. -/
theorem Ascending.insert {ms : Members} (h : Ascending ms) (key : String) (value : Json) :
    Ascending (Members.insert key value ms) := by
  induction ms with
  | nil => exact List.pairwise_singleton _ _
  | cons a rest ih =>
    obtain ⟨least, ordered⟩ := List.pairwise_cons.mp h
    unfold Members.insert
    split
    · next lt =>
      refine List.pairwise_cons.mpr ⟨fun m mem => ?_, h⟩
      rcases List.mem_cons.mp mem with rfl | mem
      · exact lt
      · exact String.lt_trans lt (least m mem)
    -- The member goes behind the first one, unless it takes its place.
    · next notLt =>
      split
      · next eq =>
        refine List.pairwise_cons.mpr ⟨fun m mem => ?_, ordered⟩
        rw [eq]
        exact least m mem
      · next ne =>
        refine List.pairwise_cons.mpr ⟨fun m mem => ?_, ih ordered⟩
        rcases mem_insert mem with rfl | mem
        · exact Std.lt_of_le_of_ne (String.not_lt.mp notLt) (Ne.symm ne)
        · exact least m mem

/-- Members that are put in one by one are kept in order. -/
theorem Ascending.union {ms : Members} (h : Ascending ms) (added : Members) :
    Ascending (Members.union ms added) := by
  unfold Members.union
  induction added generalizing ms with
  | nil => exact h
  | cons m rest ih => exact ih (h.insert m.1 m.2)

theorem ascending_ofList (pairs : List (String × Json)) : Ascending (Members.ofList pairs) :=
  ascending_nil.union pairs

/-! ## Look-ups -/

@[simp] theorem find?_nil (key : String) : Members.find? key [] = none := rfl

theorem find?_cons (key : String) (m : String × Json) (ms : Members) :
    Members.find? key (m :: ms) = if m.1 = key then some m.2 else Members.find? key ms := rfl

/-- Members in front hide those behind. -/
theorem find?_append (key : String) (ms added : Members) :
    Members.find? key (ms ++ added) = (Members.find? key ms).or (Members.find? key added) := by
  induction ms with
  | nil => simp
  | cons m rest ih =>
    rw [List.cons_append, find?_cons, find?_cons, ih]
    split <;> simp

theorem mem_of_find? {key : String} {value : Json} {ms : Members}
    (h : Members.find? key ms = some value) : (key, value) ∈ ms := by
  induction ms with
  | nil => cases h
  | cons m rest ih =>
    rw [find?_cons] at h
    split at h
    · next eq =>
      cases h
      exact eq ▸ List.mem_cons_self
    · exact List.mem_cons_of_mem m (ih h)

/-- What is not found is under no key. -/
theorem find?_eq_none_iff {key : String} {ms : Members} :
    Members.find? key ms = none ↔ ∀ m ∈ ms, m.1 ≠ key := by
  induction ms with
  | nil => simp
  | cons m rest ih =>
    rw [find?_cons, List.forall_mem_cons, ← ih]
    split <;> simp [*]

/-- Of several values that are put under a key, the last one counts. -/
theorem find?_union (key : String) (ms added : Members) :
    Members.find? key (Members.union ms added)
      = (Members.find? key added.reverse).or (Members.find? key ms) := by
  unfold Members.union
  -- Each member that is put in hides what was there under its key.
  induction added generalizing ms with
  | nil => simp
  | cons m rest ih =>
    rw [List.foldl_cons, ih, find?_insert, List.reverse_cons, find?_append, find?_cons, find?_nil,
      Option.or_assoc]
    split <;> simp

/-- Of pairs with one key the last one counts. -/
theorem find?_ofList (key : String) (pairs : List (String × Json)) :
    Members.find? key (Members.ofList pairs) = Members.find? key pairs.reverse := by
  have putInto := find?_union key [] pairs
  rwa [find?_nil, Option.or_none] at putInto

theorem find?_optional (key k : String) (value : Option Json) :
    Members.find? k (Json.optional key value) = if key = k then value else none := by
  cases value with
  | none => simp [Json.optional]
  | some v => simp [Json.optional, find?_cons]

/-! ## Members whose keys are told apart -/

/-- Where each key is there once, a value is looked up under its own key. -/
theorem find?_eq_some_iff_of_nodup {key : String} {value : Json} {ms : Members}
    (once : (ms.map Prod.fst).Nodup) : Members.find? key ms = some value ↔ (key, value) ∈ ms := by
  refine ⟨mem_of_find?, fun mem => ?_⟩
  induction ms with
  | nil => cases mem
  | cons m rest ih =>
    obtain ⟨new, once⟩ := List.nodup_cons.mp once
    rw [find?_cons]
    rcases List.mem_cons.mp mem with rfl | mem
    · exact if_pos rfl
    · have ne : m.1 ≠ key := fun eq => new (eq ▸ List.mem_map_of_mem mem)
      rw [if_neg ne]
      exact ih once mem

/-- Where each key is there once, members are looked up from behind as from the front. -/
theorem find?_reverse_of_nodup {ms : Members} (once : (ms.map Prod.fst).Nodup) (key : String) :
    Members.find? key ms.reverse = Members.find? key ms := by
  have onceBehind : (ms.reverse.map Prod.fst).Nodup := by
    rw [List.map_reverse]
    exact List.nodup_reverse.mpr once
  refine Option.ext fun value => ?_
  rw [find?_eq_some_iff_of_nodup once, find?_eq_some_iff_of_nodup onceBehind, List.mem_reverse]

/-- Where each key is there once, it does not matter in which order the pairs are put in. -/
theorem find?_ofList_of_nodup {pairs : List (String × Json)} (once : (pairs.map Prod.fst).Nodup)
    (key : String) : Members.find? key (Members.ofList pairs) = Members.find? key pairs := by
  rw [find?_ofList, find?_reverse_of_nodup once]

/-- Where keys are in order, each is there once. -/
theorem Ascending.nodup {ms : Members} (h : Ascending ms) : (ms.map Prod.fst).Nodup := by
  refine List.pairwise_map.mpr (h.imp fun {m n} lt eq => ?_)
  exact String.lt_irrefl n.1 (eq ▸ lt)

theorem Ascending.find?_eq_some_iff {ms : Members} (h : Ascending ms) {key : String}
    {value : Json} : Members.find? key ms = some value ↔ (key, value) ∈ ms :=
  find?_eq_some_iff_of_nodup h.nodup

/-- Members in order with the same look-ups are the same. -/
theorem ext {ms ns : Members} (hm : Ascending ms) (hn : Ascending ns)
    (same : ∀ key, Members.find? key ms = Members.find? key ns) : ms = ns := by
  -- Both have the same members, each once; in order there is only one list of them.
  have among : ∀ m, m ∈ ms ↔ m ∈ ns := fun m => by
    rw [← hm.find?_eq_some_iff, ← hn.find?_eq_some_iff, same]
  have lt_asymm : ∀ m n : String × Json, m.1 < n.1 → n.1 < m.1 → m = n := fun m n lt gt =>
    absurd (String.lt_trans lt gt) (String.lt_irrefl m.1)
  refine List.Perm.eq_of_pairwise (fun m n _ _ => lt_asymm m n) hm hn ?_
  exact (List.perm_ext_iff_of_nodup hm.nodup.of_map hn.nodup.of_map).mpr among

/-- Members in order are what becomes of them when they are put in one by one. -/
theorem Ascending.ofList_eq {ms : Members} (h : Ascending ms) : Members.ofList ms = ms :=
  ext (ascending_ofList ms) h (find?_ofList_of_nodup h.nodup)

/-! ## Members under other keys -/

/-- The members under none of the keys. -/
def without (keys : List String) (ms : Members) : Members :=
  ms.filter fun m => m.1 ∉ keys

theorem Ascending.without {ms : Members} (h : Ascending ms) (keys : List String) :
    Ascending (ms.without keys) :=
  h.filter _

/-- Members under the keys are gone, and the others are there. -/
theorem find?_without (key : String) (keys : List String) (ms : Members) :
    Members.find? key (ms.without keys) = if key ∈ keys then none else Members.find? key ms := by
  unfold without
  induction ms with
  | nil => simp
  | cons m rest ih =>
    -- A member that goes was under one of the keys; one that stays was not.
    by_cases among : m.1 ∈ keys
    · rw [List.filter_cons_of_neg (by simpa using among), ih, find?_cons]
      split
      · rfl
      · next outside =>
        have ne : m.1 ≠ key := fun eq => outside (eq ▸ among)
        rw [if_neg ne]
    · rw [List.filter_cons_of_pos (by simpa using among), find?_cons, find?_cons, ih]
      split
      · next eq => rw [← eq, if_neg among]
      · rfl

theorem find?_without_of_mem {key : String} {keys : List String} (mem : key ∈ keys)
    (ms : Members) : Members.find? key (ms.without keys) = none := by
  rw [find?_without, if_pos mem]

/-- It does not matter what is put under a key that is left out. -/
theorem Ascending.without_insert_of_mem {ms : Members} (h : Ascending ms) {key : String}
    {keys : List String} (mem : key ∈ keys) (value : Json) :
    (Members.insert key value ms).without keys = ms.without keys := by
  refine ext ((h.insert key value).without keys) (h.without keys) fun k => ?_
  rw [find?_without, find?_without, find?_insert]
  split
  · rfl
  · next other =>
    have ne : key ≠ k := fun eq => other (eq ▸ mem)
    rw [if_neg ne]

/-- What is put under another key stays. -/
theorem Ascending.without_insert_of_not_mem {ms : Members} (h : Ascending ms) {key : String}
    {keys : List String} (other : key ∉ keys) (value : Json) :
    (Members.insert key value ms).without keys
      = Members.insert key value (ms.without keys) := by
  refine ext ((h.insert key value).without keys) ((h.without keys).insert key value) fun k => ?_
  rw [find?_without, find?_insert, find?_insert, find?_without]
  by_cases same : key = k
  · rw [if_neg (same ▸ other), if_pos same, if_pos same]
  · rw [if_neg same, if_neg same]

/-! ## Known members and the rest -/

/-- A member that may be left out brings in no other key. -/
theorem map_fst_optional (key : String) (value : Option Json) :
    ((Json.optional key value).map Prod.fst).Sublist [key] := by
  cases value with
  | none => exact List.nil_sublist _
  | some v => exact List.Sublist.refl _

variable {ms : Members} {keys : List String} {known : List (String × Json)}

/-- What is looked up in the known members together with the rest of an object. -/
theorem find?_union_without (h : Ascending ms) (once : keys.Nodup)
    (within : (known.map Prod.fst).Sublist keys) (key : String) :
    Members.find? key (Members.union (Members.ofList known) (ms.without keys))
      = if key ∈ keys then Members.find? key known else Members.find? key ms := by
  rw [find?_union, find?_reverse_of_nodup (h.without keys).nodup, find?_without,
    find?_ofList_of_nodup (once.sublist within)]
  split
  · exact Option.none_or
  · next other =>
    have unknown : Members.find? key known = none := by
      refine find?_eq_none_iff.mpr fun m mem same => other ?_
      exact same ▸ within.subset (List.mem_map_of_mem mem)
    rw [unknown, Option.or_none]

/-- Known members leave the rest of an object as it is. -/
theorem without_union_without (h : Ascending ms) (once : keys.Nodup)
    (within : (known.map Prod.fst).Sublist keys) :
    (Members.union (Members.ofList known) (ms.without keys)).without keys = ms.without keys := by
  have ordered := (ascending_ofList known).union (ms.without keys)
  refine ext (ordered.without keys) (h.without keys) fun key => ?_
  rw [find?_without, find?_without, find?_union_without h once within]
  split <;> rfl

theorem ascending_union_ofList (known : List (String × Json)) (rest : Members) :
    Ascending (Members.union (Members.ofList known) rest) :=
  (ascending_ofList known).union rest

end InferenceGateway.Json.Members
