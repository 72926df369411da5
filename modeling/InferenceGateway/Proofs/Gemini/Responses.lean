import Mathlib
import InferenceGateway.Gemini.Response

/-!
# Chat answers made of replies in Gemini's form

Every reply gives a complete chat answer. If there are candidates, the first part of the first one
counts and the reason why it ended; if there is none, only whether the prompt was blocked. Anything
on the way to these places may be missing.

* `Reply.FirstText`, `Reply.FirstReason`, `Reply.Blocked`: what stands in these places.
* `Reply.Gives`, `Reply.Ends`: the content and the finish reason of the chat answer, with one rule for
  each case.
* `Reply.Becomes`: all that the chat answer holds but its id and the time of its creation, which is
  one answer only (`Reply.Becomes.unique`).
* `Reply.Agrees`: two replies have the same in the places that count.
* `becomes_toChat`: the chat answer of every reply, which shows nothing of the other places.
-/

namespace InferenceGateway.Gemini

namespace Reply

variable {r r' : Reply} {s t word word' model : String} {a a' : ChatResponse}

/-! ## The places that count -/

/-- A text stands in the first part of the first candidate. -/
def FirstText (r : Reply) (s : String) : Prop :=
  ∃ c parts, r.candidates.head? = some c ∧ c.parts = some parts ∧ parts.head? = some (some s)

/-- A reason is given why the first candidate ended. -/
def FirstReason (r : Reply) (word : String) : Prop :=
  ∃ c, r.candidates.head? = some c ∧ c.finishReason = some word

/-- A reason is given to block the prompt. -/
def Blocked (r : Reply) : Prop :=
  ∃ reason, r.promptFeedback = some (some reason)

theorem isBlocked_iff : r.isBlocked = true ↔ r.Blocked := by
  unfold isBlocked Blocked
  simp only [Option.isSome_iff_exists, Option.join_eq_some_iff]

/-! ## The content -/

/-- The content that is made of a reply. -/
inductive Gives (r : Reply) : String → Prop where
  | text {s : String} (first : r.FirstText s) : Gives r s
  | missing (none : ∀ s, ¬r.FirstText s) : Gives r ""

/-- There is one first part, and it has one text. -/
theorem FirstText.unique (h : r.FirstText s) (h' : r.FirstText t) : s = t := by
  obtain ⟨c, parts, first, content, text⟩ := h
  obtain ⟨c', parts', first', content', text'⟩ := h'
  obtain rfl := Option.some.inj (first.symm.trans first')
  obtain rfl := Option.some.inj (content.symm.trans content')
  exact Option.some.inj (Option.some.inj (text.symm.trans text'))

/-- A reply gives one content. -/
theorem Gives.unique (h : r.Gives s) (h' : r.Gives t) : s = t := by
  cases h with
  | text first =>
    cases h' with
    | text first' => exact first.unique first'
    | missing none => exact absurd first (none _)
  | missing none =>
    cases h' with
    | text first' => exact absurd first' (none _)
    | missing => rfl

/-- What is answered is the text in the place that counts, or nothing. -/
theorem gives_answer (r : Reply) : r.Gives r.answer.1 := by
  unfold answer
  -- Only the first candidate is asked, and of it only the first part.
  cases found : r.candidates with
  | nil =>
    refine .missing fun s => ?_
    rintro ⟨c, parts, first, -, -⟩
    simp [found] at first
  | cons c rest =>
    have first : r.candidates.head? = some c := by rw [found, List.head?_cons]
    show r.Gives c.text
    unfold Candidate.text
    split
    · next s rest content => exact .text ⟨c, _, first, content, rfl⟩
    · next other =>
      refine .missing fun s => ?_
      rintro ⟨c', parts, first', content, text⟩
      obtain rfl := Option.some.inj (first.symm.trans first')
      obtain ⟨rest, rfl⟩ := List.head?_eq_some_iff.mp text
      exact other s rest content

/-! ## The finish reason -/

/-- The reasons to end that the chat format calls a filtered content. -/
def filterReasons : List String :=
  ["SAFETY", "RECITATION", "BLOCKLIST", "PROHIBITED_CONTENT", "SPII"]

/-- The finish reason that is made of a reply. -/
inductive Ends (r : Reply) : String → Prop where
  | long (reason : r.FirstReason "MAX_TOKENS") : Ends r "length"
  | filtered {word : String} (reason : r.FirstReason word) (filter : word ∈ filterReasons) :
    Ends r "content_filter"
  /-- Any other reason to end is taken for a regular end, and so is none. -/
  | regular (candidate : r.candidates ≠ [])
    (other : ∀ word, r.FirstReason word → word ≠ "MAX_TOKENS" ∧ word ∉ filterReasons) :
    Ends r "stop"
  | blocked (none : r.candidates = []) (blocked : r.Blocked) : Ends r "content_filter"
  | empty (none : r.candidates = []) (free : ¬r.Blocked) : Ends r "stop"

/-- Each of them is a filtered content. -/
theorem finishReason_of_filter (filter : word ∈ filterReasons) :
    finishReason word = "content_filter" := by
  simp only [filterReasons, List.mem_cons, List.not_mem_nil, or_false] at filter
  obtain rfl | rfl | rfl | rfl | rfl := filter <;> rfl

theorem finishReason_of_other (long : word ≠ "MAX_TOKENS") (filter : word ∉ filterReasons) :
    finishReason word = "stop" := by
  unfold finishReason
  split
  · exact absurd rfl long
  iterate 5 exact absurd (by decide) filter
  · rfl

/-- A reason that is given is translated. -/
theorem answer_of_firstReason (h : r.FirstReason word) : r.answer.2 = finishReason word := by
  obtain ⟨c, first, reason⟩ := h
  obtain ⟨rest, found⟩ := List.head?_eq_some_iff.mp first
  unfold answer
  rw [found]
  simp only [reason, Option.map_some, Option.getD_some]

/-- A candidate without a reason has ended regularly. -/
theorem answer_of_noReason (candidate : r.candidates ≠ []) (none : ∀ word, ¬r.FirstReason word) :
    r.answer.2 = "stop" := by
  obtain ⟨c, rest, found⟩ := List.exists_cons_of_ne_nil candidate
  have noReason : c.finishReason = .none :=
    Option.eq_none_iff_forall_ne_some.mpr fun word reason =>
      none word ⟨c, by rw [found, List.head?_cons], reason⟩
  unfold answer
  rw [found]
  simp only [noReason, Option.map_none, Option.getD_none]

/-- Without a candidate it counts whether the prompt was blocked. -/
theorem answer_of_empty (none : r.candidates = []) :
    r.answer.2 = if r.isBlocked then "content_filter" else "stop" := by
  unfold answer
  rw [none]

/-- What is said about the end of a reply is what is answered. -/
theorem Ends.eq (h : r.Ends word) : word = r.answer.2 := by
  cases h with
  | long reason => exact (answer_of_firstReason reason).symm
  | filtered reason filter =>
    rw [answer_of_firstReason reason, finishReason_of_filter filter]
  | regular candidate other =>
    -- A regular end may have a reason of its own or none.
    by_cases given : ∃ word, r.FirstReason word
    · obtain ⟨word, reason⟩ := given
      obtain ⟨long, filter⟩ := other word reason
      rw [answer_of_firstReason reason, finishReason_of_other long filter]
    · exact (answer_of_noReason candidate (not_exists.mp given)).symm
  | blocked none blocked => rw [answer_of_empty none, if_pos (isBlocked_iff.mpr blocked)]
  | empty none free => rw [answer_of_empty none, if_neg (mt isBlocked_iff.mp free)]

theorem Ends.unique (h : r.Ends word) (h' : r.Ends word') : word = word' :=
  h.eq.trans h'.eq.symm

/-- Something is said about the end of every reply. -/
theorem exists_ends (r : Reply) : ∃ word, r.Ends word := by
  -- The cases are taken in the order in which they count.
  by_cases none : r.candidates = []
  · by_cases blocked : r.Blocked
    · exact ⟨_, .blocked none blocked⟩
    · exact ⟨_, .empty none blocked⟩
  by_cases long : r.FirstReason "MAX_TOKENS"
  · exact ⟨_, .long long⟩
  by_cases filtered : ∃ word, r.FirstReason word ∧ word ∈ filterReasons
  · obtain ⟨word, reason, filter⟩ := filtered
    exact ⟨_, .filtered reason filter⟩
  · refine ⟨_, .regular none fun word reason => ⟨?_, fun filter => filtered ⟨word, reason, filter⟩⟩⟩
    rintro rfl
    exact long reason

/-- So what is answered is what is said about it. -/
theorem ends_answer (r : Reply) : r.Ends r.answer.2 := by
  obtain ⟨word, ends⟩ := exists_ends r
  exact ends.eq ▸ ends

/-- The chat format knows every finish reason that is made. -/
theorem Ends.known (h : r.Ends word) : word ∈ ["stop", "length", "content_filter"] := by
  cases h <;> decide

/-! ## The chat answer -/

/-- The token counts of the chat answer: there are some if the reply has some. -/
inductive Counted : Option Counts → Option Usage → Prop where
  | missing : Counted none none
  | counts (u : Counts) : Counted (some u)
    (some { promptTokens := u.prompt, completionTokens := u.candidates, totalTokens := u.total })

theorem Counted.unique {u : Option Counts} {v v' : Option Usage} (h : Counted u v)
    (h' : Counted u v') : v = v' := by
  cases h <;> cases h' <;> rfl

/-- What the chat answer for a model holds, whatever its id and the time of its creation. -/
structure Becomes (r : Reply) (model : String) (a : ChatResponse) : Prop where
  object : a.object = "chat.completion"
  model : a.model = model
  /-- There is exactly one choice, with a content and a finish reason. -/
  choice : ∃ content word, r.Gives content ∧ r.Ends word
    ∧ word ∈ ["stop", "length", "content_filter"]
    ∧ a.choices = [{ index := 0
                     message := { role := "assistant", content := some content }
                     finishReason := some word }]
  usage : Counted r.usage a.usage
  extra : a.extra = []

/-- A reply becomes one answer, but for its id and the time of its creation. -/
theorem Becomes.unique (h : r.Becomes model a) (h' : r.Becomes model a') :
    { a' with id := a.id, created := a.created } = a := by
  obtain ⟨content, word, gives, ends, -, choices⟩ := h.choice
  obtain ⟨content', word', gives', ends', -, choices'⟩ := h'.choice
  obtain rfl := gives.unique gives'
  obtain rfl := ends.unique ends'
  have object : a'.object = a.object := h'.object.trans h.object.symm
  have model : a'.model = a.model := h'.model.trans h.model.symm
  have choices : a'.choices = a.choices := choices'.trans choices.symm
  have usage : a'.usage = a.usage := h'.usage.unique h.usage
  have extra : a'.extra = a.extra := h'.extra.trans h.extra.symm
  rw [object, model, choices, usage, extra]

/-! ## Replies that agree -/

/-- Two replies have the same in all places that count. -/
structure Agrees (r r' : Reply) : Prop where
  text : ∀ s, r.FirstText s ↔ r'.FirstText s
  reason : ∀ word, r.FirstReason word ↔ r'.FirstReason word
  candidate : r.candidates = [] ↔ r'.candidates = []
  blocked : r.candidates = [] → (r.Blocked ↔ r'.Blocked)
  usage : r.usage = r'.usage

theorem Agrees.gives (agree : r.Agrees r') (h : r'.Gives s) : r.Gives s := by
  cases h with
  | text first => exact .text ((agree.text _).mpr first)
  | missing none => exact .missing fun s first => none s ((agree.text s).mp first)

/-- Replies that agree end alike. -/
theorem Agrees.ends (agree : r.Agrees r') (h : r'.Ends word) : r.Ends word := by
  cases h with
  | long reason => exact .long ((agree.reason _).mpr reason)
  | filtered reason filter => exact .filtered ((agree.reason _).mpr reason) filter
  | regular candidate other =>
    exact .regular (mt agree.candidate.mp candidate) fun word reason =>
      other word ((agree.reason word).mp reason)
  | blocked none blocked =>
    have none := agree.candidate.mpr none
    exact .blocked none ((agree.blocked none).mpr blocked)
  | empty none free =>
    have none := agree.candidate.mpr none
    exact .empty none (mt (agree.blocked none).mp free)

/-- What a reply becomes, those become that agree with it. -/
theorem Agrees.becomes (agree : r.Agrees r') (h : r'.Becomes model a) : r.Becomes model a where
  object := h.object
  model := h.model
  choice := by
    obtain ⟨content, word, gives, ends, choice⟩ := h.choice
    exact ⟨content, word, agree.gives gives, agree.ends ends, choice⟩
  usage := agree.usage ▸ h.usage
  extra := h.extra

theorem counted_map (u : Option Counts) :
    Counted u (u.map fun u =>
      { promptTokens := u.prompt, completionTokens := u.candidates, totalTokens := u.total }) := by
  cases u with
  | none => exact .missing
  | some u => exact .counts u

/-- The translation of a reply is what it becomes. -/
theorem toChat_becomes (r : Reply) (id : String) (created : Int) (model : String) :
    r.Becomes model (r.toChat id created model) where
  object := rfl
  model := rfl
  choice := ⟨_, _, gives_answer r, ends_answer r, (ends_answer r).known, rfl⟩
  usage := counted_map r.usage
  extra := rfl

/--
The chat answer of a reply is complete, and it is that of every other reply that has the same in the
places that count, whatever else either of them holds.
-/
theorem becomes_toChat (r : Reply) (id : String) (created : Int) (model : String) :
    r.Becomes model (r.toChat id created model)
      ∧ ∀ (r' : Reply) (id' : String) (created' : Int), r.Agrees r' →
        { r'.toChat id' created' model with id := id, created := created }
          = r.toChat id created model := by
  refine ⟨toChat_becomes r id created model, fun r' id' created' agree => ?_⟩
  -- the other answer is one that this reply may become as well
  have other := agree.becomes (toChat_becomes r' id' created' model)
  exact (toChat_becomes r id created model).unique other

/-- A part without a text does not let the next one speak, nor the next candidate. -/
example : Reply.answer
    { candidates := [{ parts := some [none, some "Bonjour"] }, { finishReason := some "SAFETY" }] }
      = ("", "stop") := by
  decide

end Reply

end InferenceGateway.Gemini
