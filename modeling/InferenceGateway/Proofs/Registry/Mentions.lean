import Mathlib
import InferenceGateway.Proofs.Server.Startup
import InferenceGateway.Proofs.Text.Names

/-!
# The order that a text means

The order of priority is configured as a text of names. The providers that it mentions come first,
each where it is mentioned first, however often that is, and those that it does not mention follow in
their default order. So every text whose names are names of providers means an order of all of them.

* `Priority.Precedes`: which of two providers comes first, from the list of mentions.
* `Priority.Follows`: an order of all providers that follows mentions.
* `Priority.follows_foldl`: taking one mention after the other leads to such an order.
* `Priority.orders_by_mention`: which texts mean an order, which order that is, and that the order
  written down means itself.
-/

namespace InferenceGateway

/-! ## Names as they are configured -/

namespace Provider

/-- What is left of a name without its blanks and its case still names the same provider. -/
theorem named_lowerAscii_trim {name : String} {p : Provider} :
    Named (Text.lowerAscii (Text.trim name)) p ↔ Named name p := by
  unfold Named
  rw [Text.trim_lowerAscii, Text.trim_trim, Text.lowerAscii_lowerAscii]

theorem named_id (p : Provider) : Named p.id p := by
  unfold Named
  cases p <;> decide

end Provider

namespace Priority

/-- The pieces of a text that are not blank. -/
def filled (pieces : List String) : List String :=
  pieces.filter fun piece => !Text.isBlankText piece

theorem mem_filled {pieces : List String} {piece : String} :
    piece ∈ filled pieces ↔ piece ∈ pieces ∧ Text.isBlankText piece = false := by
  unfold filled
  rw [List.mem_filter, Bool.not_eq_true']

/-- Without blanks and case a piece is empty just if it was blank. -/
theorem isEmpty_lowerAscii_trim (piece : String) :
    (Text.lowerAscii (Text.trim piece)).isEmpty = Text.isBlankText piece := by
  rw [Bool.eq_iff_iff, String.isEmpty_iff, ← Text.trim_eq_empty_iff]
  simp [Text.lowerAscii]

/-- A piece is dropped if it holds nothing but blanks. -/
theorem names_eq (s : String) :
    names s = (filled (Text.fields ',' s)).map fun piece => Text.lowerAscii (Text.trim piece) := by
  unfold names filled
  simp only [List.filter_map, Function.comp_def, isEmpty_lowerAscii_trim]

/-- Names mean an order if each of them is one of a provider. -/
theorem ofNames_eq_ok_iff {names : List String} {order : List Provider} :
    ofNames names = .ok order
      ↔ ∃ mentions, List.Forall₂ Provider.Named names mentions
        ∧ (mentions ++ Provider.all).foldl append [] = order := by
  unfold ofNames
  simp only [bind_eq_ok_iff, pure_eq_ok_iff, mapM_eq_ok_iff, Provider.ofText_eq_ok_iff]

/-- The names in a text are those that its pieces are, but for the blank ones. -/
theorem forall₂_named_names {s : String} {mentions : List Provider} :
    List.Forall₂ Provider.Named (names s) mentions
      ↔ List.Forall₂ Provider.Named (filled (Text.fields ',' s)) mentions := by
  rw [names_eq, List.forall₂_map_left_iff]
  simp only [Provider.named_lowerAscii_trim]

/-! ## Mentions -/

/-- A provider is mentioned at a place before which another one is not. -/
def Ahead (mentions : List Provider) (p q : Provider) : Prop :=
  ∃ before after, mentions = before ++ p :: after ∧ q ∉ before ∧ q ≠ p

/--
A provider comes before another one: it is mentioned ahead of it, or neither is mentioned and it
comes first by default.
-/
inductive Precedes (mentions : List Provider) (p q : Provider) : Prop where
  | mentioned (ahead : Ahead mentions p q)
  | unmentioned (first : p ∉ mentions) (second : q ∉ mentions) (default : p.rank < q.rank)

/-- An order of all providers in which those mentioned come first, as they are mentioned first. -/
structure Follows (mentions order : List Provider) : Prop where
  once : ∀ p, order.count p = 1
  ordered : order.Pairwise (Precedes mentions)

section

variable {mentions : List Provider} {p q : Provider}

theorem Ahead.append (h : Ahead mentions p q) (more : List Provider) :
    Ahead (mentions ++ more) p q := by
  obtain ⟨before, after, rfl, notYet, other⟩ := h
  exact ⟨before, after ++ more, by simp, notYet, other⟩

/-- Who is mentioned is ahead of all who are not. -/
theorem ahead_of_mem (hp : p ∈ mentions) (hq : q ∉ mentions) : Ahead mentions p q := by
  obtain ⟨before, after, rfl⟩ := List.append_of_mem hp
  refine ⟨before, after, rfl, fun mem => hq (List.mem_append_left _ mem), ?_⟩
  rintro rfl
  exact hq hp

/-! ### One mention after the other -/

/-- A mention adds its provider, and drops none. -/
theorem mem_append {order : List Provider} :
    q ∈ append order p ↔ q ∈ order ∨ q = p := by
  unfold append
  split
  · next held =>
    refine ⟨Or.inl, fun h => h.elim id ?_⟩
    rintro rfl
    exact held
  · rw [List.mem_append, List.mem_singleton]

/-- Those in the order are those mentioned. -/
theorem mem_foldl_append : p ∈ mentions.foldl append [] ↔ p ∈ mentions := by
  induction mentions using List.reverseRecOn with
  | nil => exact Iff.rfl
  | append_singleton mentions q ih =>
    rw [List.foldl_concat, mem_append, ih, List.mem_append, List.mem_singleton]

/-- However often it is mentioned, a provider stands in the order once. -/
theorem nodup_foldl_append (mentions : List Provider) : (mentions.foldl append []).Nodup := by
  induction mentions using List.reverseRecOn with
  | nil => exact List.nodup_nil
  | append_singleton mentions p ih =>
    rw [List.foldl_concat, append]
    split
    · exact ih
    · next new => exact List.concat_eq_append ▸ ih.concat new

/-- Each mention leaves the order of those before it, and only a new one goes behind them. -/
theorem pairwise_foldl_append (mentions : List Provider) :
    (mentions.foldl append []).Pairwise (Ahead mentions) := by
  induction mentions using List.reverseRecOn with
  | nil => exact List.Pairwise.nil
  | append_singleton mentions p ih =>
    have kept := ih.imp fun ahead => Ahead.append ahead [p]
    rw [List.foldl_concat, append]
    split
    · exact kept
    -- a new provider goes behind all, and all others have been mentioned before it
    · next new =>
      refine List.pairwise_append.mpr ⟨kept, List.pairwise_singleton _ _, fun q mem r last => ?_⟩
      cases List.mem_singleton.mp last
      rw [mem_foldl_append] at mem new
      exact (ahead_of_mem mem new).append [p]

theorem pairwise_rank_all : Provider.all.Pairwise fun p q => p.rank < q.rank := by
  simp [Provider.all, Provider.rank]

/-- Behind the mentions all providers stand in their default order. -/
theorem precedes_of_ahead (h : Ahead (mentions ++ Provider.all) p q) : Precedes mentions p q := by
  obtain ⟨before, after, eq, notYet, other⟩ := h
  by_cases hp : p ∈ mentions
  -- both are mentioned, only one of them is, or neither
  · by_cases hq : q ∈ mentions
    · -- the place of `p` is within the mentions, or `q` would be before it
      rcases List.append_eq_append_iff.mp eq with ⟨rest, rfl, -⟩ | ⟨rest, rfl, behind⟩
      · exact absurd (List.mem_append_left _ hq) notYet
      · cases rest with
        | nil => exact absurd (by simpa using hq) notYet
        | cons c rest =>
          obtain ⟨rfl, -⟩ := List.cons.inj behind
          exact .mentioned ⟨before, rest, rfl, notYet, other⟩
    · exact .mentioned (ahead_of_mem hp hq)
  · have behind : ∃ passed, before = mentions ++ passed ∧ Provider.all = passed ++ p :: after := by
      rcases List.append_eq_append_iff.mp eq with ⟨rest, eqs⟩ | ⟨rest, rfl, behind⟩
      · exact ⟨rest, eqs⟩
      · cases rest with
        | nil => exact ⟨[], by simp, by simpa using behind.symm⟩
        | cons c rest =>
          obtain ⟨rfl, -⟩ := List.cons.inj behind
          exact absurd (List.mem_append_right _ List.mem_cons_self) hp
    obtain ⟨passed, rfl, all⟩ := behind
    have hq : q ∉ mentions := fun mem => notYet (List.mem_append_left _ mem)
    have later : q ∈ after := by
      have mem := Provider.mem_all q
      rw [all, List.mem_append, List.mem_cons] at mem
      rcases mem with mem | rfl | mem
      · exact absurd (List.mem_append_right _ mem) notYet
      · exact absurd rfl other
      · exact mem
    have ranks := pairwise_rank_all
    rw [all] at ranks
    exact .unmentioned hp hq (List.rel_of_pairwise_cons (List.pairwise_append.mp ranks).2.1 later)

/-- The order that mentions lead to follows them. -/
theorem follows_foldl (mentions : List Provider) :
    Follows mentions ((mentions ++ Provider.all).foldl append []) where
  once p := List.count_eq_one_of_mem (nodup_foldl_append _)
    (mem_foldl_append.mpr (List.mem_append_right _ (Provider.mem_all p)))
  ordered := (pairwise_foldl_append _).imp precedes_of_ahead

end

/-! ### An order mentioned again -/

/-- Mentions of those that stand in the order already change nothing. -/
theorem foldl_append_of_subset {mentions order : List Provider} (held : ∀ p ∈ mentions, p ∈ order) :
    mentions.foldl append order = order := by
  induction mentions with
  | nil => rfl
  | cons p rest ih =>
    obtain ⟨first, later⟩ := List.forall_mem_cons.mp held
    rw [List.foldl_cons, append, if_pos first, ih later]

/-- An order that is mentioned from the start is the order that is made. -/
theorem foldl_append_of_nodup {order : List Provider} (once : order.Nodup) :
    order.foldl append [] = order := by
  induction order using List.reverseRecOn with
  | nil => rfl
  | append_singleton order p ih =>
    obtain ⟨before, -, apart⟩ := List.nodup_append.mp once
    have new : p ∉ order := fun mem => apart p mem p (List.mem_singleton_self p) rfl
    rw [List.foldl_concat, ih before, append, if_neg new]

section

variable {mentions order : List Provider}

/-- An order of all providers, mentioned again, is itself: there is nothing to fill up. -/
theorem Follows.foldl_append_eq (h : Follows mentions order) :
    (order ++ Provider.all).foldl append [] = order := by
  have once : order.Nodup := List.nodup_iff_count_le_one.mpr fun p => (h.once p).le
  have held : ∀ p ∈ Provider.all, p ∈ order := fun p _ => by
    rw [← List.count_pos_iff, h.once p]
    exact Nat.one_pos
  rw [List.foldl_append, foldl_append_of_nodup once, foldl_append_of_subset held]

/-- The names of an order mean this order. -/
theorem Follows.ofNames_eq (h : Follows mentions order) :
    ofNames (order.map Provider.id) = .ok order := by
  refine ofNames_eq_ok_iff.mpr ⟨order, ?_, h.foldl_append_eq⟩
  exact List.forall₂_map_left_iff.mpr (List.forall₂_same.mpr fun p _ => p.named_id)

theorem Follows.ne_nil (h : Follows mentions order) : order ≠ [] := by
  rintro rfl
  exact absurd (h.once .jan) (by simp)

/-- The names of an order are found again between the commas of one text. -/
theorem Follows.names_join (h : Follows mentions order) :
    names (Text.join "," (order.map Provider.id)) = order.map Provider.id := by
  have apart : Text.Separated ',' (Text.join "," (order.map Provider.id))
      (order.map Provider.id) := by
    refine ⟨by simpa using h.ne_nil, rfl, fun piece mem => ?_⟩
    obtain ⟨p, -, rfl⟩ := List.mem_map.mp mem
    cases p <;> decide
  have whole : filled (order.map Provider.id) = order.map Provider.id := by
    refine List.filter_eq_self.mpr fun piece mem => ?_
    obtain ⟨p, -, rfl⟩ := List.mem_map.mp mem
    cases p <;> decide
  rw [names_eq, Text.separated_iff.mp apart, whole, List.map_map]
  exact List.map_congr_left fun p _ => p.named_id

end

/--
The order that a text means. There is one exactly if every piece between commas that is not blank is
a name of a provider. It holds each provider once: first those that the text mentions, as it mentions
them first, then the others in their default order. Its names mean the same order again, as a list
and as a text.
-/
theorem orders_by_mention (s : String) :
    ∃ pieces, Text.Separated ',' s pieces
      ∧ ((∃ order, ofNames (names s) = .ok order)
        ↔ ∀ piece ∈ pieces, Text.isBlankText piece = false → ∃ p, Provider.Named piece p)
      ∧ ∀ order, ofNames (names s) = .ok order →
        (∃ mentions, List.Forall₂ Provider.Named (filled pieces) mentions
          ∧ Follows mentions order)
        ∧ ofNames (order.map Provider.id) = .ok order
        ∧ ofNames (names (Text.join "," (order.map Provider.id))) = .ok order := by
  refine ⟨Text.fields ',' s, Text.separated_iff.mpr rfl, ?_, fun order meant => ?_⟩
  · rw [exists_ofNames_iff, names_eq]
    simp only [List.forall_mem_map, mem_filled, Provider.named_lowerAscii_trim, and_imp]
  · obtain ⟨mentions, named, rfl⟩ := ofNames_eq_ok_iff.mp meant
    have follows := follows_foldl mentions
    refine ⟨⟨mentions, forall₂_named_names.mp named, follows⟩, follows.ofNames_eq, ?_⟩
    rw [follows.names_join]
    exact follows.ofNames_eq

example : ofNames (names " Gemini ,, JAN,gemini") = .ok [.gemini, .jan, .openRouter] := by decide

end Priority

end InferenceGateway
