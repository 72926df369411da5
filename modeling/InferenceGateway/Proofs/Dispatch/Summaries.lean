import Mathlib
import InferenceGateway.Dispatch.Summary
import InferenceGateway.Proofs.Registry.ClientOrder

/-!
# What summaries tell about keys

How the providers of a gateway are doing is shown to every caller, with a hint at the key of the
process for each of them. The hint is all that comes of a key: of a key that is missing or empty
there is none, of one with at most eight characters it is a mask alone, and of a longer one the last
four characters behind the mask. Characters count, however many bytes they have.

* `Hints`: what is shown of a key; `hints_iff` says that the gateway shows this.
* `KeysAlike`: two keys that no hint tells apart; `keysAlike_iff` says that these are all.
* `Gateway.summaries_reveal_hints`: two gateways with such keys show the same after the same rounds,
  and with other keys they do not.
-/

namespace InferenceGateway

/-! ## Hints -/

/-- A key is missing or empty. -/
def Unset (key : Option String) : Prop :=
  key = none ∨ key = some ""

/-- What is shown of a key, if anything. -/
inductive Hints : Option String → Option String → Prop where
  | unset {key : Option String} (h : Unset key) : Hints key none
  | short {key : String} (filled : key ≠ "") (h : key.length ≤ 8) : Hints (some key) (some "****")
  | long {front last : String} (four : last.length = 4) (h : 8 < (front ++ last).length) :
    Hints (some (front ++ last)) (some ("****" ++ last))

/-- No hint tells two keys apart. -/
inductive KeysAlike : Option String → Option String → Prop where
  | unset {key key' : Option String} (h : Unset key) (h' : Unset key') : KeysAlike key key'
  | short {key key' : String} (filled : key ≠ "") (filled' : key' ≠ "") (h : key.length ≤ 8)
    (h' : key'.length ≤ 8) : KeysAlike (some key) (some key')
  | long {front front' last : String} (four : last.length = 4) (h : 8 < (front ++ last).length)
    (h' : 8 < (front' ++ last).length) : KeysAlike (some (front ++ last)) (some (front' ++ last))

/-- Of a short secret nothing is shown. -/
theorem Auth.hint_of_short {secret : String} (h : secret.length ≤ 8) : hint secret = "****" :=
  if_pos h

/-- Of a long secret its last four characters are shown. -/
theorem Auth.hint_of_long {front last : String} (four : last.length = 4)
    (h : 8 < (front ++ last).length) : hint (front ++ last) = "****" ++ last := by
  have before : (front ++ last).length - 4 = front.toList.length := by
    rw [String.length_append, four, Nat.add_sub_cancel, String.length_toList]
  have shown : (front ++ last).toList.drop ((front ++ last).toList.length - shownChars)
      = last.toList := by
    rw [String.length_toList]
    show (front ++ last).toList.drop ((front ++ last).length - 4) = _
    rw [before, String.toList_append, List.drop_left]
  unfold hint
  dsimp only
  rw [if_neg (by rw [String.length_toList]; exact Nat.not_le_of_lt h), shown, String.ofList_toList]
  rfl

/-- A text with four characters or more has four last ones. -/
theorem exists_last_four {s : String} (h : 4 ≤ s.length) :
    ∃ front last, s = front ++ last ∧ last.length = 4 := by
  refine ⟨.ofList (s.toList.take (s.length - 4)), .ofList (s.toList.drop (s.length - 4)), ?_, ?_⟩
  · rw [← String.ofList_append, List.take_append_drop, String.ofList_toList]
  · rw [String.length_ofList, List.length_drop, String.length_toList]
    omega

theorem filter_of_unset {key : Option String} (h : Unset key) :
    (key.filter fun k => !k.isEmpty) = none := by
  rcases h with rfl | rfl <;> rfl

theorem filter_of_filled {key : String} (h : key ≠ "") :
    ((some key).filter fun k => !k.isEmpty) = some key := by
  simp [h]

/-- The gateway shows of every key what may be shown. -/
theorem hints_iff {key hint : Option String} :
    Hints key hint ↔ hint = (key.filter fun k => !k.isEmpty).map Auth.hint := by
  constructor
  · intro h
    cases h with
    | unset h => rw [filter_of_unset h, Option.map_none]
    | short filled h => rw [filter_of_filled filled, Option.map_some, Auth.hint_of_short h]
    | @long front last four h =>
      have filled : front ++ last ≠ "" := fun empty => by simp [empty] at h
      rw [filter_of_filled filled, Option.map_some, Auth.hint_of_long four h]
  · rintro rfl
    cases key with
    | none => exact .unset (.inl rfl)
    | some k =>
      by_cases empty : k = ""
      · subst empty
        exact .unset (.inr rfl)
      · rw [filter_of_filled empty, Option.map_some]
        by_cases small : k.length ≤ 8
        · rw [Auth.hint_of_short small]
          exact .short empty small
        · obtain ⟨front, last, rfl, four⟩ := exists_last_four (s := k) (by omega)
          rw [Auth.hint_of_long four (Nat.lt_of_not_le small)]
          exact .long four (Nat.lt_of_not_le small)

/-- Keys are alike exactly if the same is shown of them. -/
theorem keysAlike_iff {key key' : Option String} :
    KeysAlike key key' ↔ ∃ hint, Hints key hint ∧ Hints key' hint := by
  constructor
  · intro alike
    cases alike with
    | unset h h' => exact ⟨none, .unset h, .unset h'⟩
    | short filled filled' h h' => exact ⟨some "****", .short filled h, .short filled' h'⟩
    | @long front front' last four h h' =>
      exact ⟨some ("****" ++ last), .long four h, .long four h'⟩
  · rintro ⟨hint, shown, shown'⟩
    -- a mask alone is shorter than one with four characters behind it
    have longer : ∀ {last : String}, last.length = 4 → "****" ≠ "****" ++ last := by
      intro last four same
      have lengths := congrArg String.length same
      rw [String.length_append, four] at lengths
      cases lengths
    cases shown with
    | unset h =>
      cases shown' with
      | unset h' => exact .unset h h'
    | short filled h =>
      generalize mask : some "****" = hint at shown'
      cases shown' with
      | unset => cases mask
      | short filled' h' => exact .short filled filled' h h'
      | long four => exact absurd (Option.some.inj mask) (longer four)
    | @long front last four h =>
      generalize tail : some ("****" ++ last) = hint at shown'
      cases shown' with
      | unset => cases tail
      | short => exact absurd (Option.some.inj tail).symm (longer four)
      | @long front' last' four' h' =>
        have same : last' = last := by
          have letters := congrArg String.toList (Option.some.inj tail)
          rw [String.toList_append, String.toList_append] at letters
          exact (String.toList_inj.mp (List.append_cancel_left letters)).symm
        subst same
        exact .long four h h'

/-! ## Summaries -/

/-- The same without the time of the listing. -/
def ProviderSummary.undated (shown : ProviderSummary) : ProviderSummary :=
  { shown with checkedAt := shown.checkedAt.map fun _ => 0 }

namespace Gateway

variable {g g' : Gateway}

theorem hints_summary (g : Gateway) (s : Snapshot) (p : Provider) :
    Hints (ProviderKeys.find? p g.rules.process) (g.summary s p).keyHint :=
  hints_iff.mpr rfl

/-- Whatever the snapshots are, two gateways show the same hint unless it tells their keys apart. -/
theorem keyHint_eq_iff (s s' : Snapshot) (p : Provider) :
    (g'.summary s' p).keyHint = (g.summary s p).keyHint
      ↔ KeysAlike (ProviderKeys.find? p g.rules.process)
          (ProviderKeys.find? p g'.rules.process) := by
  rw [keysAlike_iff]
  constructor
  · intro same
    exact ⟨_, hints_summary g s p, same ▸ hints_summary g' s' p⟩
  · rintro ⟨hint, shown, shown'⟩
    rw [hints_iff.mp shown] at shown'
    exact (hints_iff.mp shown').symm

/-- All that a summary shows besides the hint is in the snapshot. -/
theorem summary_eq_iff (s : Snapshot) (p : Provider) : g'.summary s p = g.summary s p
    ↔ (g'.summary s p).keyHint = (g.summary s p).keyHint := by
  constructor
  · intro same
    rw [same]
  · intro same
    unfold summary at same ⊢
    dsimp only at same
    rw [same]

/-- Without the time of the listing a summary shows what the snapshot has without it. -/
theorem undated_summary (g : Gateway) (s : Snapshot) (p : Provider) :
    (g.summary s p).undated =
      let health := (s.health.get p).map Health.undated
      { provider := p
        active := health.any Health.healthy
        modelCount := (health.map Health.modelCount).getD 0
        lastError := health.bind Health.lastError
        checkedAt := health.map Health.checkedAt
        keyHint := (g.summary s p).keyHint } := by
  unfold summary ProviderSummary.undated
  cases s.health.get p <;> rfl

/-- Of two runs that differ in keys and times, summaries are told apart by hints alone. -/
theorem undated_summary_eq_iff {s s' : Snapshot} (alike : s'.Alike s) (p : Provider) :
    (g'.summary s' p).undated = (g.summary s p).undated
      ↔ (g'.summary s' p).keyHint = (g.summary s p).keyHint := by
  constructor
  · intro same
    have hints : (g'.summary s' p).undated.keyHint = (g.summary s p).undated.keyHint := by rw [same]
    exact hints
  · intro same
    rw [undated_summary, undated_summary, alike.health p, same]

/-- The keys of two gateways are alike for each of the providers. -/
def AllAlike (providers : List Provider) (process process' : ProviderKeys) : Prop :=
  ∀ p ∈ providers, KeysAlike (ProviderKeys.find? p process) (ProviderKeys.find? p process')

/-- Under one snapshot summaries are the same just if all keys show alike. -/
theorem summaries_eq_iff {s s' : Snapshot} (same : s' = s) (registry : g'.registry = g.registry) :
    g'.summaries s' = g.summaries s
      ↔ AllAlike g.registry.providers g.rules.process g'.rules.process := by
  subst same
  unfold summaries
  rw [registry, List.map_inj_left]
  exact forall₂_congr fun p _ => (summary_eq_iff s' p).trans (keyHint_eq_iff s' s' p)

/-- The same, but for the times, under snapshots that differ in these. -/
theorem undated_summaries_eq_iff {s s' : Snapshot} (alike : s'.Alike s)
    (registry : g'.registry = g.registry) :
    (g'.summaries s').map ProviderSummary.undated = (g.summaries s).map ProviderSummary.undated
      ↔ AllAlike g.registry.providers g.rules.process g'.rules.process := by
  unfold summaries
  rw [registry, List.map_map, List.map_map, List.map_inj_left]
  exact forall₂_congr fun p _ => (undated_summary_eq_iff alike p).trans (keyHint_eq_iff s s' p)

open Registry.Turns (Steps Chronicle Publication)

/--
What the summaries of a gateway reveal about the keys of the process. Take two gateways that differ
in these keys alone, and any two runs of refreshes, one on each, that gather the same listings round
by round: if the keys are alike for every provider that there is a client of, both show the same,
but for the times when they were asked, and if these are the same too, just the same. Otherwise they
show something else. Of each key, whatever the run, the hint shows whether it is missing or empty,
whether it has more than eight characters, and if so its last four, and nothing more.
-/
theorem summaries_reveal_hints (r : Registry) (organizations : OrganizationStore)
    (process process' : ProviderKeys) :
    let g : Gateway := { registry := r, rules := ⟨organizations, process⟩ }
    let g' : Gateway := { registry := r, rules := ⟨organizations, process'⟩ }
    (∀ t, Steps r {} t → ∃ published, Chronicle r published t)
    ∧ (∀ published published' t t', Chronicle r published t → Chronicle r published' t' →
        published'.map Publication.listings = published.map Publication.listings →
        ((g'.summaries t'.current).map ProviderSummary.undated
            = (g.summaries t.current).map ProviderSummary.undated
          ↔ AllAlike r.providers process process')
        ∧ (published'.map Publication.time = published.map Publication.time →
          (g'.summaries t'.current = g.summaries t.current
            ↔ AllAlike r.providers process process')))
    ∧ ∀ t, Steps r {} t → ∀ shown ∈ g.summaries t.current,
        Hints (ProviderKeys.find? shown.provider process) shown.keyHint := by
  intro g g'
  refine ⟨fun t run => run.exists_chronicle, ?_, fun t run shown mem => ?_⟩
  · intro published published' t t' chronicle chronicle' listings
    have alike : t'.current.Alike t.current := by
      rw [chronicle.current_eq, chronicle'.current_eq]
      exact Registry.Turns.alike_latest listings
    refine ⟨undated_summaries_eq_iff alike rfl, fun times => summaries_eq_iff ?_ rfl⟩
    rw [chronicle.current_eq, chronicle'.current_eq,
      Registry.Turns.eq_of_listings_of_times listings times]
  · obtain ⟨p, -, rfl⟩ := List.mem_map.mp mem
    exact hints_summary g t.current p

/-- Of long keys with the same last characters the same is shown, though these have more than one
byte each; another last character shows. -/
theorem last_letters_show :
    let r : Registry := { clients := [⟨.jan, false⟩, ⟨.gemini, true⟩], pins := [] }
    let g (key : String) : Gateway :=
      { registry := r, rules := ⟨OrganizationKeys.store [], [(.jan, key)]⟩ }
    ∃ t, Steps r {} t ∧ t.current.generation = 1
      ∧ (g "ключ-αβγδ").summaries t.current = (g "κλειδί-αβγδ").summaries t.current
      ∧ (g "κλειδί-αβγε").summaries t.current ≠ (g "κλειδί-αβγδ").summaries t.current
      ∧ ((g "κλειδί-αβγδ").summaries t.current).map ProviderSummary.keyHint
        = [some "****αβγδ", none] := by
  intro r g
  have begun := ((Chronicle.start.other (.begin (r := r) (i := 0) rfl) rfl).other
    (.lock (i := 0) rfl rfl) rfl).other (.readPrior (i := 0) rfl) rfl
  have ended := ((begun.other (.arrive (i := 0) 1 (.error "down") rfl rfl) rfl).other
    (.arrive (i := 0) 0 (.ok []) rfl rfl) rfl).publish 5 (i := 0) [.ok [], .error "down"] rfl
  have alike : AllAlike r.providers [(.jan, "κλειδί-αβγδ")] [(.jan, "ключ-αβγδ")] := by
    intro p mem
    rcases List.mem_pair.mp mem with rfl | rfl
    · exact @KeysAlike.long "κλειδί-" "ключ-" "αβγδ" (by decide) (by decide) (by decide)
    · exact .unset (.inl rfl) (.inl rfl)
  have shown : Auth.hint "κλειδί-αβγδ" = "****αβγδ" := by decide
  have differ : ¬AllAlike r.providers [(.jan, "κλειδί-αβγδ")] [(.jan, "κλειδί-αβγε")] := by
    intro all
    obtain ⟨hint, one, other⟩ := keysAlike_iff.mp (all .jan List.mem_cons_self)
    have same := (hints_iff.mp one).symm.trans (hints_iff.mp other)
    have hints : Auth.hint "κλειδί-αβγδ" = Auth.hint "κλειδί-αβγε" := Option.some.inj same
    exact absurd hints (by decide)
  obtain ⟨-, reveal, -⟩ := summaries_reveal_hints r (OrganizationKeys.store [])
    [(.jan, "κλειδί-αβγδ")] [(.jan, "ключ-αβγδ")]
  obtain ⟨-, reveal', -⟩ := summaries_reveal_hints r (OrganizationKeys.store [])
    [(.jan, "κλειδί-αβγδ")] [(.jan, "κλειδί-αβγε")]
  refine ⟨_, ended.steps, rfl, ?_, ?_, ?_⟩
  · exact ((reveal _ _ _ _ ended ended rfl).2 rfl).mpr alike
  · exact fun same => differ (((reveal' _ _ _ _ ended ended rfl).2 rfl).mp same)
  · show [some (Auth.hint "κλειδί-αβγδ"), none] = _
    rw [shown]

end Gateway

end InferenceGateway
