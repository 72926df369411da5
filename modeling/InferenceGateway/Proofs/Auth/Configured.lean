import Mathlib
import InferenceGateway.Proofs.Auth.Book

/-!
# Keys as they are configured

Keys for providers are configured under names, and a provider has many: outer blanks and the case of
letters do not count. Whether configured keys can be read does not depend on the order in which they
are taken, but which of two keys for one provider is kept does.

* `Provider.Named`: the names of a provider.
* `ProviderKeys.Known`: all keys that are not blank stand under names of providers;
  `ProviderKeys.exists_ofConfig_iff` says that exactly these can be read.
* `ProviderKeys.Ranked`: the order of typed keys, which are the same if look-ups are
  (`ProviderKeys.Ranked.ext`).
* `ProviderKeys.Agree`: no provider has two different keys under its names.
* `ProviderKeys.same_in_every_order_iff`: what is read is the same in every order exactly then.
-/

namespace InferenceGateway

/-! ## Names -/

namespace Provider

/-- A text is a name of a provider, up to outer blanks and the case of ASCII letters. -/
def Named (name : String) (p : Provider) : Prop :=
  Text.lowerAscii (Text.trim name) = p.id

/-- An id is that of one provider. -/
theorem ofId?_eq_some_iff {s : String} {p : Provider} : ofId? s = some p ↔ s = p.id := by
  constructor
  · intro found
    unfold ofId? at found
    have same := List.find?_some found
    exact (beq_iff_eq.mp same).symm
  · rintro rfl
    exact ofId?_id p

/-- A text is read as a provider if it is a name of it, and refused if it is a name of none. -/
theorem ofText_eq_ok_iff {name : String} {p : Provider} : ofText name = .ok p ↔ Named name p := by
  unfold ofText Named
  rw [← ofId?_eq_some_iff]
  dsimp only
  split
  · next q found =>
    rw [found]
    simp
  · next missing =>
    rw [missing]
    simp

/-- A name is that of one provider at most. -/
theorem Named.unique {name : String} {p q : Provider} (hp : Named name p) (hq : Named name q) :
    p = q :=
  Except.ok.inj ((ofText_eq_ok_iff.mpr hp).symm.trans (ofText_eq_ok_iff.mpr hq))

theorem rank_injective {p q : Provider} (h : p.rank = q.rank) : p = q := by
  cases p <;> cases q <;> first | rfl | cases h

end Provider

namespace ProviderKeys

/-! ## Which keys can be read -/

/-- A pair as configured holds a key that is not blank. -/
def Filled (pair : String × String) : Prop :=
  Text.isBlankText pair.2 = false

/-- All keys that are not blank stand under names of providers. -/
def Known (pairs : List (String × String)) : Prop :=
  ∀ pair ∈ pairs, Filled pair → ∃ p, Provider.Named pair.1 p

theorem mem_filled {pairs : List (String × String)} {pair : String × String} :
    (pair ∈ pairs.filter fun pair => !Text.isBlankText pair.2) ↔ pair ∈ pairs ∧ Filled pair := by
  rw [List.mem_filter, Bool.not_eq_true']
  rfl

/-- Configured keys can be read exactly if those that are not blank have a provider each. -/
theorem exists_ofConfig_iff {pairs : List (String × String)} :
    (∃ keys, ofConfig pairs = .ok keys) ↔ Known pairs := by
  unfold ofConfig Known
  rw [exists_foldlM_eq_ok_iff fun pair => ∃ p, Provider.Named pair.1 p]
  · simp only [mem_filled, and_imp]
  · intro keys pair
    simp only [exists_bind_eq_ok_iff, ← Provider.ofText_eq_ok_iff]
    exact exists_congr fun p => and_iff_left ⟨_, rfl⟩

theorem Known.of_perm {pairs pairs' : List (String × String)} (perm : pairs'.Perm pairs)
    (h : Known pairs) : Known pairs' :=
  fun pair mem => h pair (perm.mem_iff.mp mem)

/-! ## Typed keys in order -/

/-- Keys stand in the order of their providers, which have one each. -/
def Ranked (keys : ProviderKeys) : Prop :=
  keys.Pairwise fun a b => a.1.rank < b.1.rank

/-- What is put in adds nothing but itself. -/
theorem mem_insert {p : Provider} {key : String} {keys : ProviderKeys} {pair : Provider × String}
    (h : pair ∈ insert p key keys) : pair = (p, key) ∨ pair ∈ keys := by
  induction keys with
  | nil => exact .inl (List.mem_singleton.mp h)
  | cons head rest ih =>
    unfold insert at h
    split at h
    · exact (List.mem_cons.mp h).imp_right (List.mem_cons_of_mem _)
    split at h
    · exact List.mem_cons.mp h
    · rcases List.mem_cons.mp h with rfl | later
      · exact .inr List.mem_cons_self
      · exact (ih later).imp_right (List.mem_cons_of_mem _)

/-- A key is put where its provider has its place, over the one it had. -/
theorem Ranked.insert {keys : ProviderKeys} (h : Ranked keys) (p : Provider) (key : String) :
    Ranked (insert p key keys) := by
  induction keys with
  | nil => exact List.pairwise_singleton _ _
  | cons head rest ih =>
    obtain ⟨q, k⟩ := head
    obtain ⟨least, ordered⟩ := List.pairwise_cons.mp h
    unfold ProviderKeys.insert
    split
    · next same =>
      subst same
      exact List.pairwise_cons.mpr ⟨least, ordered⟩
    · next other =>
      split
      · next before =>
        refine List.pairwise_cons.mpr ⟨fun pair mem => ?_, h⟩
        rcases List.mem_cons.mp mem with rfl | later
        · exact before
        · exact Nat.lt_trans before (least pair later)
      · next notBefore =>
        refine List.pairwise_cons.mpr ⟨fun pair mem => ?_, ih ordered⟩
        rcases mem_insert mem with rfl | later
        · have apart : p.rank ≠ q.rank := fun same => other (Provider.rank_injective same)
          show q.rank < p.rank
          omega
        · exact least pair later

/-- Keys that are read stand in order, whatever the order of the pairs. -/
theorem ranked_of_ofConfig {pairs : List (String × String)} {keys : ProviderKeys}
    (h : ofConfig pairs = .ok keys) : Ranked keys := by
  have start : Ranked [] := List.Pairwise.nil
  -- order is the invariant of taking pair after pair
  refine @of_foldlM_eq_ok _ _ _ _ (fun _ keys => Ranked keys) ?_ _ [] _ _ start h
  intro taken keys pair keys' ranked next
  obtain ⟨p, -, ⟨⟩⟩ := bind_eq_ok_iff.mp next
  exact ranked.insert p _

/-- Where keys stand in order, look-ups find all of them. -/
theorem Ranked.find?_eq_some_iff {keys : ProviderKeys} (h : Ranked keys) {p : Provider}
    {key : String} : find? p keys = some key ↔ (p, key) ∈ keys := by
  unfold find?
  rw [List.lookup_eq_some_iff]
  constructor
  · rintro ⟨before, after, rfl, -⟩
    simp
  · intro mem
    obtain ⟨before, after, rfl⟩ := List.append_of_mem mem
    refine ⟨before, after, rfl, fun pair earlier => ?_⟩
    -- a look-up takes the first that fits, and no pair before this one is of the same provider
    have lower : pair.1.rank < p.rank :=
      (List.pairwise_append.mp h).2.2 pair earlier (p, key) List.mem_cons_self
    have other : p ≠ pair.1 := by
      rintro rfl
      exact Nat.lt_irrefl _ lower
    simpa using other

/-- Typed keys are known by what look-ups find. -/
theorem Ranked.ext {keys keys' : ProviderKeys} (h : Ranked keys) (h' : Ranked keys')
    (same : ∀ p, find? p keys = find? p keys') : keys = keys' := by
  have distinct : ∀ {keys : ProviderKeys}, Ranked keys → keys.Nodup := by
    intro keys ranked
    refine ranked.imp fun {a b} lower => ?_
    rintro rfl
    exact Nat.lt_irrefl _ lower
  -- pairs are what look-ups find, and there is one way to put them in order
  have perm : keys.Perm keys' := by
    refine (List.perm_ext_iff_of_nodup (distinct h) (distinct h')).mpr fun pair => ?_
    rw [← h.find?_eq_some_iff, ← h'.find?_eq_some_iff, same]
  exact perm.eq_of_pairwise (fun a b _ _ lower higher => absurd lower (Nat.lt_asymm higher)) h h'

/-! ## The order of configuration -/

/-- A pair as configured says that a key is that of a provider. -/
def Gives (pair : String × String) (p : Provider) (key : String) : Prop :=
  Filled pair ∧ Provider.Named pair.1 p ∧ Text.trim pair.2 = key

/-- No provider is given two different keys. -/
def Agree (pairs : List (String × String)) : Prop :=
  ∀ a ∈ pairs, ∀ b ∈ pairs, ∀ p key key', Gives a p key → Gives b p key' → key = key'

/-- A pair names a provider if it gives it a key, which is the text without outer blanks. -/
theorem names_iff {p : Provider} {pair : String × String} :
    Names p pair = true ↔ Gives pair p (Text.trim pair.2) := by
  unfold Names Gives
  rw [Bool.and_eq_true, Bool.not_eq_true', decide_eq_true_iff, Provider.ofText_eq_ok_iff]
  exact ⟨fun h => ⟨h.1, h.2, rfl⟩, fun h => ⟨h.1, h.2.1⟩⟩

/-- The key that is configured for a provider is one that it is given. -/
theorem gives_of_configured {pairs : List (String × String)} {p : Provider} {key : String}
    (h : configured p pairs = some key) : ∃ pair ∈ pairs, Gives pair p key := by
  obtain ⟨pair, last, rfl⟩ := Option.map_eq_some_iff.mp h
  obtain ⟨mem, names⟩ := List.mem_filter.mp (List.mem_of_getLast? last)
  exact ⟨pair, mem, names_iff.mp names⟩

/-- The pair that is taken last has its way. -/
theorem configured_concat {pair : String × String} {p : Provider} {key : String}
    (gives : Gives pair p key) (pairs : List (String × String)) :
    configured p (pairs ++ [pair]) = some key := by
  obtain ⟨filled, named, rfl⟩ := gives
  have names : Names p pair = true := names_iff.mpr ⟨filled, named, rfl⟩
  unfold configured
  rw [List.filter_append, List.filter_cons_of_pos names, List.filter_nil, List.getLast?_concat]
  rfl

/-- Where no two keys disagree, the one that is configured for a provider is any that it is given. -/
theorem Agree.configured_eq_some_iff {pairs : List (String × String)} (h : Agree pairs)
    {p : Provider} {key : String} :
    configured p pairs = some key ↔ ∃ pair ∈ pairs, Gives pair p key := by
  constructor
  · exact gives_of_configured
  · rintro ⟨pair, mem, gives⟩
    cases found : configured p pairs with
    | none =>
      have none : pairs.filter (Names p) = [] :=
        List.getLast?_eq_none_iff.mp (Option.map_eq_none_iff.mp found)
      have names : Names p pair = true := by
        obtain ⟨filled, named, rfl⟩ := gives
        exact names_iff.mpr ⟨filled, named, rfl⟩
      exact absurd names (List.filter_eq_nil_iff.mp none pair mem)
    | some key' =>
      obtain ⟨pair', mem', gives'⟩ := gives_of_configured found
      rw [h pair' mem' pair mem p key' key gives' gives]

theorem Agree.of_perm {pairs pairs' : List (String × String)} (perm : pairs'.Perm pairs)
    (h : Agree pairs) : Agree pairs' :=
  fun a ha b hb => h a (perm.mem_iff.mp ha) b (perm.mem_iff.mp hb)

/-- Keys that agree are read alike in every order. -/
theorem Agree.ofConfig_eq {pairs pairs' : List (String × String)} (h : Agree pairs)
    (perm : pairs'.Perm pairs) {keys keys' : ProviderKeys} (read : ofConfig pairs = .ok keys)
    (read' : ofConfig pairs' = .ok keys') : keys' = keys := by
  refine (ranked_of_ofConfig read').ext (ranked_of_ofConfig read) fun p => ?_
  rw [find?_of_ofConfig read, find?_of_ofConfig read']
  ext key
  rw [h.configured_eq_some_iff, (h.of_perm perm).configured_eq_some_iff]
  exact exists_congr fun pair => and_congr_left' perm.mem_iff

/-- Any pair can have its way, if it is taken last. -/
theorem exists_order {pairs : List (String × String)} (known : Known pairs)
    {pair : String × String} (mem : pair ∈ pairs) {p : Provider} {key : String}
    (gives : Gives pair p key) : ∃ pairs' keys, pairs'.Perm pairs
      ∧ ofConfig pairs' = .ok keys ∧ find? p keys = some key := by
  obtain ⟨before, after, rfl⟩ := List.append_of_mem mem
  -- all others keep their order
  have perm : (before ++ after ++ [pair]).Perm (before ++ pair :: after) := by
    rw [List.append_assoc]
    exact (List.perm_append_singleton pair after).append_left before
  obtain ⟨keys, read⟩ := exists_ofConfig_iff.mpr (known.of_perm perm)
  refine ⟨_, keys, perm, read, ?_⟩
  rw [find?_of_ofConfig read]
  exact configured_concat gives (before ++ after)

/--
Reading keys in different orders. They can be read in one order exactly if they can in any other:
if all that are not blank stand under names of providers. What is read is the same in every order
exactly if no provider is given two different keys; then each provider has the key that it is given.
-/
theorem same_in_every_order_iff (pairs : List (String × String)) :
    (∀ pairs', pairs'.Perm pairs → ((∃ keys, ofConfig pairs' = .ok keys) ↔ Known pairs))
    ∧ (Known pairs →
        ((∃ keys, ∀ pairs', pairs'.Perm pairs → ofConfig pairs' = .ok keys) ↔ Agree pairs)
        ∧ ∀ keys, Agree pairs → ofConfig pairs = .ok keys →
          ∀ p key, find? p keys = some key ↔ ∃ pair ∈ pairs, Gives pair p key) := by
  refine ⟨fun pairs' perm => ?_, fun known => ⟨⟨?_, fun agree => ?_⟩, ?_⟩⟩
  · rw [exists_ofConfig_iff]
    exact ⟨fun h => h.of_perm perm.symm, fun h => h.of_perm perm⟩
  · rintro ⟨keys, always⟩ a ha b hb p key key' gives gives'
    -- each of the two keys is kept in some order, so that both are in the one table
    obtain ⟨pairs₁, keys₁, perm₁, read₁, found₁⟩ := exists_order known ha gives
    obtain ⟨pairs₂, keys₂, perm₂, read₂, found₂⟩ := exists_order known hb gives'
    obtain rfl : keys₁ = keys := Except.ok.inj (read₁.symm.trans (always pairs₁ perm₁))
    obtain rfl : keys₂ = keys₁ := Except.ok.inj (read₂.symm.trans (always pairs₂ perm₂))
    exact Option.some.inj (found₁.symm.trans found₂)
  · obtain ⟨keys, read⟩ := exists_ofConfig_iff.mpr known
    refine ⟨keys, fun pairs' perm => ?_⟩
    obtain ⟨keys', read'⟩ := exists_ofConfig_iff.mpr (known.of_perm perm)
    rw [read', agree.ofConfig_eq perm read read']
  · intro keys agree read p key
    rw [find?_of_ofConfig read, agree.configured_eq_some_iff]

/-- One key under two spellings of a name, and a blank one under no name, are read alike in every
order. -/
theorem spellings_agree :
    let pairs := [("jan", "a"), (" JAN ", "a "), ("nobody", " ")]
    Known pairs ∧ Agree pairs ∧ pairs.reverse.Perm pairs ∧ ofConfig pairs.reverse = ofConfig pairs
      ∧ (find? .jan [(.jan, "a")] = some "a" ↔ ∃ pair ∈ pairs, Gives pair .jan "a") := by
  intro pairs
  have read : ofConfig pairs = .ok [(.jan, "a")] := by rfl
  have turned : pairs.reverse.Perm pairs := List.reverse_perm pairs
  have agree : Agree pairs := by
    have only : ∀ pair ∈ pairs, ∀ p key, Gives pair p key → key = "a" := by
      intro pair mem p key gives
      obtain ⟨filled, -, rfl⟩ := gives
      rcases List.mem_cons.mp mem with rfl | mem
      · rfl
      rcases List.mem_cons.mp mem with rfl | mem
      · rfl
      · rw [List.mem_singleton.mp mem] at filled
        cases filled
    intro a ha b hb p key key' gives gives'
    rw [only a ha p key gives, only b hb p key' gives']
  obtain ⟨readable, whole⟩ := same_in_every_order_iff pairs
  have known : Known pairs := (readable pairs (.refl _)).mp ⟨_, read⟩
  obtain ⟨same, given⟩ := whole known
  obtain ⟨keys, always⟩ := same.mpr agree
  refine ⟨known, agree, turned, ?_, given _ agree read .jan "a"⟩
  rw [always _ turned, always _ (.refl _)]

/-- Of two keys under two spellings of one name, the one that is taken last is kept. -/
theorem spellings_conflict :
    let pairs := [("jan", "a"), ("JAN", "b")]
    (pairs.map Prod.fst).Nodup ∧ pairs.reverse.Perm pairs
      ∧ ofConfig pairs = .ok [(.jan, "b")] ∧ ofConfig pairs.reverse = .ok [(.jan, "a")] := by
  intro pairs
  exact ⟨by decide, List.reverse_perm pairs, rfl, rfl⟩

end ProviderKeys

end InferenceGateway
