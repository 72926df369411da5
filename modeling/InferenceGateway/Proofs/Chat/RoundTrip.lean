import Mathlib
import InferenceGateway.Proofs.Chat.Requests
import InferenceGateway.Proofs.Chat.Responses
import InferenceGateway.Proofs.Json.Printing

/-!
# Writing and reading again

A request or an answer that has been read from a text is read again from what is written of it.

* `ChatRequest.Means.again`, `ChatResponse.Means.again`: what has been read means the same when it
  is written.
* `ChatRequest.Means.sound`, `ChatResponse.Means.sound`: it is a value that a text can spell.
* `reading_undoes_writing`: so it is read again from its text, and its text stays as it is.
-/

namespace InferenceGateway

open Json (Members Given Needed Defaulted Listed)

/-! ## Parts of records -/

section

variable {α : Type} {means : Json → α → Prop} {write : α → Json} {o : Option Json}

/-- A value that may be missing and is left out then. -/
theorem given_map {a : Option α} (h : Given means o a)
    (again : ∀ j x, j ≠ .null → means j x → write x ≠ .null ∧ means (write x) x) :
    Given means (a.map write) a := by
  cases h with
  | missing => exact .missing
  | null => exact .missing
  | value present meant => exact .value (again _ _ present meant).1 (again _ _ present meant).2

/-- A value that may be missing and is null then. -/
theorem given_ofOption {a : Option α} (h : Given means o a)
    (again : ∀ j x, j ≠ .null → means j x → write x ≠ .null ∧ means (write x) x) :
    Given means (some (Json.ofOption (a.map write))) a := by
  cases h with
  | missing => exact .null
  | null => exact .null
  | value present meant => exact .value (again _ _ present meant).1 (again _ _ present meant).2

/-- Items that are written anew mean one by one what they meant. -/
theorem forall₂_map_write {items : List Json} {as : List α} (h : List.Forall₂ means items as)
    (again : ∀ j a, means j a → means (write a) a) : List.Forall₂ means (as.map write) as := by
  induction h with
  | nil => exact .nil
  | cons first _ ih => exact .cons (again _ _ first) ih

/-- A list that may be missing and is empty then. -/
theorem defaulted_array {as : List α} (h : Defaulted (Listed means) [] o as)
    (again : ∀ j a, means j a → means (write a) a) :
    Defaulted (Listed means) [] (some (.array (as.map write))) as := by
  cases h with
  | missing => exact .given (.list .nil)
  | given meant =>
    obtain ⟨each⟩ := meant
    exact .given (.list (forall₂_map_write each again))

/-- An integer that may be missing and is zero then; it is always written. -/
theorem defaulted_integer {n : Int} (h : Defaulted Json.IsInteger 0 o n) :
    Defaulted Json.IsInteger 0 (some (.integer n)) n := by
  cases h with
  | missing => exact .given ⟨rfl, by decide⟩
  | given meant => exact .given ⟨rfl, meant.2⟩

/-- A text that may be missing and is null then. -/
theorem given_text {s : Option String} (h : Given (fun j s => j = .string s) o s) :
    Given (fun j s => j = .string s) (some (Json.ofOption (s.map .string))) s :=
  given_ofOption h fun _ _ _ _ => ⟨Json.noConfusion, rfl⟩

end

/-- Unknown members are written beside the known ones, and told apart from these again. -/
theorem extra_again {keys : List String} {ms extra : Members} {known : List (String × Json)}
    (ordered : ms.Ascending) (once : keys.Nodup) (kept : extra = ms.without keys)
    (within : (known.map Prod.fst).Sublist keys) :
    extra = (Members.union (Members.ofList known) extra).without keys := by
  subst kept
  exact (Members.without_union_without ordered once within).symm

/-! ## Messages -/

/-- The known members of a message are written as it holds them, and the others stay as they are. -/
theorem ChatMessage.MeantBy.again {m : ChatMessage} {ms : Members} (h : m.MeantBy ms) :
    m.MeantBy m.members where
  ordered := Members.ascending_union_ofList _ _
  role := ⟨_, h.find?_field .role, rfl⟩
  content := by
    -- The content is kept as it was given, so it is written by the identity.
    have written : Members.find? "content" m.members = m.content.map id :=
      (h.find?_field .content).trans Option.map_id_apply.symm
    rw [written]
    refine given_map h.content fun j x present same => ⟨?_, rfl⟩
    exact same ▸ present
  extra := extra_again h.ordered (by decide) h.extra m.keys_knownMembers

theorem ChatMessage.Means.again {j : Json} {m : ChatMessage} (h : Means j m) :
    Means m.toJson m := by
  obtain ⟨ms, rfl, meant⟩ := h
  exact ⟨_, m.toJson_eq, meant.again⟩

/-- The same of a message of an answer; its content is always written, if only as null. -/
theorem AnswerMessage.MeantBy.again {m : AnswerMessage} {ms : Members} (h : m.MeantBy ms) :
    m.MeantBy m.members where
  ordered := Members.ascending_union_ofList _ _
  role := ⟨_, h.find?_field .role, rfl⟩
  content := h.find?_field .content ▸ given_text h.content
  extra := extra_again h.ordered (by decide) h.extra m.keys_knownMembers

theorem AnswerMessage.Means.again {j : Json} {m : AnswerMessage} (h : Means j m) :
    Means m.toJson m := by
  obtain ⟨ms, rfl, meant⟩ := h
  exact ⟨_, m.toJson_eq, meant.again⟩

/-! ## Parts of answers -/

/-- A choice is written with the index and the message that it holds. -/
theorem Choice.MeantBy.again {c : Choice} {ms : Members} (h : c.MeantBy ms) :
    c.MeantBy c.members where
  ordered := Members.ascending_union_ofList _ _
  index := by
    obtain ⟨j, -, meant⟩ := h.index
    exact ⟨_, h.find?_field .index, rfl, meant.2⟩
  message := by
    obtain ⟨j, -, meant⟩ := h.message
    exact ⟨_, h.find?_field .message, meant.again⟩
  finishReason := h.find?_field .finishReason ▸ given_text h.finishReason
  extra := extra_again h.ordered (by decide) h.extra c.keys_knownMembers

theorem Choice.Means.again {j : Json} {c : Choice} (h : Means j c) : Means c.toJson c := by
  obtain ⟨ms, rfl, meant⟩ := h
  exact ⟨_, c.toJson_eq, meant.again⟩

/-- Counts that were missing are written as zero, which they mean. -/
theorem Usage.MeantBy.again {u : Usage} {ms : Members} (h : u.MeantBy ms) :
    u.MeantBy u.members where
  ordered := Members.ascending_union_ofList _ _
  promptTokens := h.find?_field .promptTokens ▸ defaulted_integer h.promptTokens
  completionTokens := h.find?_field .completionTokens ▸ defaulted_integer h.completionTokens
  totalTokens := h.find?_field .totalTokens ▸ defaulted_integer h.totalTokens
  extra := extra_again h.ordered (by decide) h.extra u.keys_knownMembers

theorem Usage.Means.again {j : Json} {u : Usage} (h : Means j u) : Means u.toJson u := by
  obtain ⟨ms, rfl, meant⟩ := h
  exact ⟨_, u.toJson_eq, meant.again⟩

/-! ## Requests and answers -/

/-- What is written of a request names each of its members at most once and has nothing else but the
unknown ones. -/
theorem ChatRequest.MeantBy.again {r : ChatRequest} {ms : Members} (h : r.MeantBy ms) :
    r.MeantBy r.members where
  ordered := Members.ascending_union_ofList _ _
  model := r.find?_field h.ordered h.extra .model ▸ .given rfl
  messages := r.find?_field h.ordered h.extra .messages
    ▸ defaulted_array h.messages fun _ _ => ChatMessage.Means.again
  temperature := r.find?_field h.ordered h.extra .temperature
    ▸ given_map h.temperature fun _ x _ _ => ⟨Json.noConfusion, .float x⟩
  topP := r.find?_field h.ordered h.extra .topP
    ▸ given_map h.topP fun _ x _ _ => ⟨Json.noConfusion, .float x⟩
  maxTokens := r.find?_field h.ordered h.extra .maxTokens
    ▸ given_map h.maxTokens fun _ _ _ meant => ⟨Json.noConfusion, rfl, meant.2⟩
  stop := r.find?_field h.ordered h.extra .stop
    ▸ given_map h.stop fun j s present meant =>
      ⟨StopTexts.ofJson?_eq_some_iff.mp meant ▸ present, StopTexts.ofJson?_eq_some_iff.mpr rfl⟩
  stream := r.find?_field h.ordered h.extra .stream
    ▸ given_map h.stream fun _ _ _ _ => ⟨Json.noConfusion, rfl⟩
  extra := extra_again h.ordered (by decide) h.extra r.keys_knownMembers

theorem ChatRequest.Means.again {j : Json} {r : ChatRequest} (h : Means j r) :
    Means r.toJson r := by
  obtain ⟨ms, rfl, meant⟩ := h
  exact ⟨_, r.toJson_eq, meant.again⟩

/-- The same of an answer, down to its choices and its counts. -/
theorem ChatResponse.MeantBy.again {r : ChatResponse} {ms : Members} (h : r.MeantBy ms) :
    r.MeantBy r.members where
  ordered := Members.ascending_union_ofList _ _
  id := ⟨_, h.find?_field .id, rfl⟩
  object := h.find?_field .object ▸ .given rfl
  created := h.find?_field .created ▸ defaulted_integer h.created
  model := ⟨_, h.find?_field .model, rfl⟩
  choices := h.find?_field .choices ▸ defaulted_array h.choices fun _ _ => Choice.Means.again
  usage := h.find?_field .usage
    ▸ given_map h.usage fun _ _ _ meant => ⟨Json.noConfusion, meant.again⟩
  extra := extra_again h.ordered (by decide) h.extra r.keys_knownMembers

theorem ChatResponse.Means.again {j : Json} {r : ChatResponse} (h : Means j r) :
    Means r.toJson r := by
  obtain ⟨ms, rfl, meant⟩ := h
  exact ⟨_, r.toJson_eq, meant.again⟩

/-! ## What is written is sound -/

section

open Json (Sound)

variable {room : Nat}

/-- An object stays sound when its known members are written anew. -/
theorem sound_union_without {ms : Members} {known : List (String × Json)} (keys : List String)
    (sound : Sound (room + 1) (.object ms)) (fields : ∀ m ∈ known, Sound room m.2) :
    Sound (room + 1) (.object (Members.union (Members.ofList known) (ms.without keys))) := by
  cases sound with
  | object ordered within =>
    refine .object (Members.ascending_union_ofList _ _) fun m mem => ?_
    rcases Json.Members.mem_union mem with new | kept
    · exact fields m (Json.Members.mem_of_mem_ofList new)
    · exact within m (List.mem_of_mem_filter kept)

/-- A member of an object has the room that the object has within. -/
theorem sound_of_find? {ms : Members} (sound : Sound (room + 1) (.object ms)) (key : String) :
    ∀ j, Members.find? key ms = some j → Sound room j := by
  cases sound with
  | object ordered within => exact fun j found => within _ (Members.mem_of_find? found)

/-- A member that is left out needs no room. -/
theorem sound_optional {key : String} {value : Option Json}
    (sound : ∀ j, value = some j → Sound room j) :
    ∀ m ∈ Json.optional key value, Sound room m.2 := by
  cases value with
  | none => exact fun m mem => absurd mem List.not_mem_nil
  | some j =>
    intro m mem
    obtain rfl := List.mem_singleton.mp mem
    exact sound j rfl

theorem sound_text (s : Option String) : Sound room (Json.ofOption (s.map .string)) := by
  cases s with
  | none => exact .null room
  | some s => exact .string room s

variable {α : Type} {means : Json → α → Prop} {write : α → Json} {o : Option Json}

/-- A value that may be missing is sound when it is written anew. -/
theorem sound_given {a : Option α} (h : Given means o a) (before : ∀ j, o = some j → Sound room j)
    (again : ∀ j x, means j x → Sound room j → Sound room (write x)) :
    ∀ j, a.map write = some j → Sound room j := by
  cases h with
  | missing => exact fun j none => nomatch none
  | null => exact fun j none => nomatch none
  | value present meant =>
    rintro _ ⟨⟩
    exact again _ _ meant (before _ rfl)

/-- So is a list that may be missing. -/
theorem sound_array {as : List α} (h : Defaulted (Listed means) [] o as)
    (before : ∀ j, o = some j → Sound (room + 1) j)
    (again : ∀ j x, means j x → Sound room j → Sound room (write x)) :
    Sound (room + 1) (.array (as.map write)) := by
  cases h with
  | missing => exact .array fun j mem => absurd mem List.not_mem_nil
  | given meant =>
    obtain ⟨each⟩ := meant
    cases before _ rfl with
    | array within =>
      refine .array fun j mem => ?_
      obtain ⟨a, among, rfl⟩ := List.mem_map.mp mem
      obtain ⟨j, origin, meant⟩ := Json.exists_mem_of_forall₂ each among
      exact again j a meant (within j origin)

theorem sound_integer {n : Int} {j : Json} (h : Json.IsInteger j n) (sound : Sound room j) :
    Sound room (.integer n) :=
  h.1 ▸ sound

theorem sound_needed_integer {n : Int} (h : Needed Json.IsInteger o n)
    (before : ∀ j, o = some j → Sound room j) : Sound room (.integer n) := by
  obtain ⟨j, found, meant⟩ := h
  exact sound_integer meant (before j found)

theorem sound_defaulted_integer {n : Int} (h : Defaulted Json.IsInteger 0 o n)
    (before : ∀ j, o = some j → Sound room j) : Sound room (.integer n) := by
  cases h with
  | missing => exact .integer room (by decide) (by decide)
  | given meant => exact sound_integer meant (before _ rfl)

/-- An integer of 64 bits is written as a double, which is never infinite. -/
theorem sound_double {x : Double} {j : Json} (h : Json.IsDouble j x) (sound : Sound room j) :
    Sound room (.float x) := by
  cases h with
  | float x => exact sound
  | integer n =>
    cases sound with
    | integer lower upper =>
      -- A double reaches far beyond 64 bits.
      have bits : n.natAbs < 2 ^ 64 := by omega
      have small := Double.biasedExponent_ofQuotient_one_le (n < 0) bits (by decide)
      exact .float room (Double.isInfinite_eq_false_of_lt (small.trans_lt (by decide)))

/-- Around an object there is room for its own brackets. -/
theorem exists_room {ms : Members} (sound : Sound room (.object ms)) :
    ∃ inner, room = inner + 1 := by
  cases sound
  exact ⟨_, rfl⟩

/-- A message needs no more room than what it was read from. -/
theorem ChatMessage.Means.sound {j : Json} {m : ChatMessage} (h : Means j m)
    (sound : Sound room j) : Sound room m.toJson := by
  obtain ⟨ms, rfl, meant⟩ := h
  obtain ⟨room, rfl⟩ := exists_room sound
  have found := sound_of_find? sound
  have content : ∀ j, m.content.map id = some j → Sound room j :=
    sound_given meant.content (found _) fun j x same sound => same ▸ sound
  rw [Option.map_id] at content
  rw [m.toJson_eq]
  unfold members
  rw [meant.extra]
  refine sound_union_without keys sound (List.forall_mem_append.mpr ⟨?_, sound_optional content⟩)
  exact List.forall_mem_singleton.mpr (.string room m.role)

theorem AnswerMessage.Means.sound {j : Json} {m : AnswerMessage} (h : Means j m)
    (sound : Sound room j) : Sound room m.toJson := by
  obtain ⟨ms, rfl, meant⟩ := h
  obtain ⟨room, rfl⟩ := exists_room sound
  rw [m.toJson_eq]
  unfold members
  rw [meant.extra]
  refine sound_union_without keys sound (List.forall_mem_cons.mpr ⟨.string room m.role, ?_⟩)
  exact List.forall_mem_singleton.mpr (sound_text m.content)

/-- Neither does a choice, with the message within. -/
theorem Choice.Means.sound {j : Json} {c : Choice} (h : Means j c) (sound : Sound room j) :
    Sound room c.toJson := by
  obtain ⟨ms, rfl, meant⟩ := h
  obtain ⟨room, rfl⟩ := exists_room sound
  have found := sound_of_find? sound
  have index := sound_needed_integer meant.index (found _)
  have message : Sound room c.message.toJson := by
    obtain ⟨j, given, meant⟩ := meant.message
    exact meant.sound (found _ j given)
  rw [c.toJson_eq]
  unfold members
  rw [meant.extra]
  refine sound_union_without keys sound (List.forall_mem_cons.mpr ⟨index, ?_⟩)
  refine List.forall_mem_cons.mpr ⟨message, ?_⟩
  exact List.forall_mem_singleton.mpr (sound_text c.finishReason)

theorem Usage.Means.sound {j : Json} {u : Usage} (h : Means j u) (sound : Sound room j) :
    Sound room u.toJson := by
  obtain ⟨ms, rfl, meant⟩ := h
  obtain ⟨room, rfl⟩ := exists_room sound
  have found := sound_of_find? sound
  rw [u.toJson_eq]
  unfold members
  rw [meant.extra]
  refine sound_union_without keys sound (List.forall_mem_cons.mpr ⟨?_, ?_⟩)
  · exact sound_defaulted_integer meant.promptTokens (found _)
  · refine List.forall_mem_cons.mpr ⟨?_, List.forall_mem_singleton.mpr ?_⟩
    · exact sound_defaulted_integer meant.completionTokens (found _)
    · exact sound_defaulted_integer meant.totalTokens (found _)

/-- A request needs no more room than what it was read from; its messages stand two levels below it.
-/
theorem ChatRequest.Means.sound {j : Json} {r : ChatRequest} (h : Means j r)
    (sound : Sound (room + 2) j) : Sound (room + 2) r.toJson := by
  obtain ⟨ms, rfl, meant⟩ := h
  have found := sound_of_find? sound
  rw [r.toJson_eq]
  unfold members
  rw [meant.extra]
  refine sound_union_without keys sound ?_
  unfold knownMembers
  simp only [List.forall_mem_append]
  -- The members come in the order in which they are written: the two that always are, then those
  -- that may be left out.
  refine ⟨⟨⟨⟨⟨?_, ?_⟩, ?_⟩, ?_⟩, ?_⟩, ?_⟩
  · refine List.forall_mem_cons.mpr ⟨.string _ r.model, List.forall_mem_singleton.mpr ?_⟩
    exact sound_array meant.messages (found _) fun j m meant sound => meant.sound sound
  · exact sound_optional (sound_given meant.temperature (found _) fun j x => sound_double)
  · exact sound_optional (sound_given meant.topP (found _) fun j x => sound_double)
  · exact sound_optional (sound_given meant.maxTokens (found _) fun j n => sound_integer)
  · refine sound_optional (sound_given meant.stop (found _) fun j s meant sound => ?_)
    exact StopTexts.ofJson?_eq_some_iff.mp meant ▸ sound
  · exact sound_optional (sound_given meant.stream (found _) fun j b _ _ => .bool _ b)

/-- An answer needs no more room than what it was read from. -/
theorem ChatResponse.Means.sound {j : Json} {r : ChatResponse} (h : Means j r)
    (sound : Sound (room + 2) j) : Sound (room + 2) r.toJson := by
  obtain ⟨ms, rfl, meant⟩ := h
  have found := sound_of_find? sound
  rw [r.toJson_eq]
  unfold members
  rw [meant.extra]
  refine sound_union_without keys sound (List.forall_mem_append.mpr ⟨?_, ?_⟩)
  · refine List.forall_mem_cons.mpr ⟨.string _ r.id, ?_⟩
    refine List.forall_mem_cons.mpr ⟨.string _ r.object, ?_⟩
    refine List.forall_mem_cons.mpr ⟨sound_defaulted_integer meant.created (found _), ?_⟩
    refine List.forall_mem_cons.mpr ⟨.string _ r.model, List.forall_mem_singleton.mpr ?_⟩
    exact sound_array meant.choices (found _) fun j c meant sound => meant.sound sound
  · exact sound_optional (sound_given meant.usage (found _) fun j u meant sound =>
      meant.sound sound)

end

/-! ## Texts -/

/-- The text that is written of a request. -/
def ChatRequest.spelled (r : ChatRequest) : List UInt8 :=
  Text.bytesOf r.toJson.render

/-- The text that is written of an answer. -/
def ChatResponse.spelled (r : ChatResponse) : List UInt8 :=
  Text.bytesOf r.toJson.render

/-- Reads a request and writes it. -/
def ChatRequest.respelled (text : List UInt8) : Except Json.Error (List UInt8) :=
  (parse text).map spelled

/-- Reads an answer and writes it. -/
def ChatResponse.respelled (text : List UInt8) : Except Json.Error (List UInt8) :=
  (parse text).map spelled

/--
Reading undoes writing: a request or an answer that has been read from a text is read again from
what is written of it, so what is written of it stays as it is. It is assumed only that every finite
double within is read from what is written of it.
-/
theorem reading_undoes_writing :
    (∀ (text : List UInt8) (r : ChatRequest), ChatRequest.parse text = .ok r →
      (∀ x ∈ r.toJson.floats, x.isInfinite = false → Json.Rereads x) →
      ChatRequest.parse r.spelled = .ok r ∧ ChatRequest.respelled r.spelled = .ok r.spelled)
    ∧ (∀ (text : List UInt8) (r : ChatResponse), ChatResponse.parse text = .ok r →
      (∀ x ∈ r.toJson.floats, x.isInfinite = false → Json.Rereads x) →
      ChatResponse.parse r.spelled = .ok r ∧ ChatResponse.respelled r.spelled = .ok r.spelled) := by
  constructor
  · intro text r parsed rereads
    obtain ⟨j, taken, meant⟩ := ChatRequest.reads.of_readText parsed
    have sound : Json.Sound Json.depthLimit r.toJson := meant.sound (Json.sound_of_parse taken)
    have again : ChatRequest.parse r.spelled = .ok r :=
      ChatRequest.reads.readText_render sound rereads meant.again
    refine ⟨again, ?_⟩
    unfold ChatRequest.respelled
    rw [again]
    rfl
  · intro text r parsed rereads
    obtain ⟨j, taken, meant⟩ := ChatResponse.reads.of_readText parsed
    have sound : Json.Sound Json.depthLimit r.toJson := meant.sound (Json.sound_of_parse taken)
    have again : ChatResponse.parse r.spelled = .ok r :=
      ChatResponse.reads.readText_render sound rereads meant.again
    refine ⟨again, ?_⟩
    unfold ChatResponse.respelled
    rw [again]
    rfl

/-- A request with an empty list of stop texts, an integer for a double and unknown members. -/
def sentText : List UInt8 :=
  Text.bytesOf ("\x7b\"stop\":[],\"seed\":18446744073709551615,\"top_p\":1,"
    ++ "\"bias\":\x7b\"5\":-1.5\x7d,"
    ++ "\"messages\":[\x7b\"content\":[null],\"role\":\"user\"\x7d]\x7d")

/-- An answer without an object type, with token counts and unknown members at every level. -/
def answeredText : List UInt8 :=
  Text.bytesOf ("\x7b\"id\":\"i\",\"model\":\"m\",\"choices\":[\x7b\"index\":0,"
    ++ "\"message\":\x7b\"role\":\"r\",\"refusal\":null\x7d,\"logprobs\":null\x7d],"
    ++ "\"usage\":\x7b\"total_tokens\":4,\"cost\":0.5\x7d\x7d")

theorem parse_sentText :
    ChatRequest.parse sentText = .ok
      { messages := [{ role := "user", content := some (.array [.null]) }]
        topP := some ⟨0x3FF0000000000000⟩
        stop := some (.many [])
        extra := [("bias", .object [("5", .float ⟨0xBFF8000000000000⟩)]),
          ("seed", .integer 18446744073709551615)] } :=
  Json.toOption_eq_some_iff.mp (by decide +kernel)

theorem parse_answeredText :
    ChatResponse.parse answeredText = .ok
      { id := "i"
        model := "m"
        choices := [
          { index := 0
            message := { role := "r", extra := [("refusal", .null)] }
            extra := [("logprobs", .null)] }]
        usage := some { totalTokens := 4, extra := [("cost", .float ⟨0x3FE0000000000000⟩)] } } :=
  Json.toOption_eq_some_iff.mp (by decide +kernel)

/-- Both are read again, down to the list that stays empty and the members nobody asked for. -/
theorem unknown_members_are_read_again :
    (∃ r, ChatRequest.parse sentText = .ok r ∧ r.stop = some (.many [])
      ∧ ChatRequest.parse r.spelled = .ok r)
    ∧ (∃ r, ChatResponse.parse answeredText = .ok r ∧ r.object = "chat.completion"
      ∧ ChatResponse.parse r.spelled = .ok r) := by
  have rereads : ∀ x ∈ ([⟨0xBFF8000000000000⟩, ⟨0x3FF0000000000000⟩, ⟨0x3FE0000000000000⟩]
      : List Double), Json.Rereads x := by
    intro x mem
    simp only [List.mem_cons, List.not_mem_nil, or_false] at mem
    refine Json.toOption_eq_some_iff.mp ?_
    rcases mem with rfl | rfl | rfl <;> decide +kernel
  constructor
  · -- Its doubles are the first two of them, those of the answer the last one.
    refine ⟨_, parse_sentText, rfl, (reading_undoes_writing.1 _ _ parse_sentText ?_).1⟩
    exact fun x mem _ => rereads x (List.mem_of_mem_take (i := 2) mem)
  · refine ⟨_, parse_answeredText, rfl, (reading_undoes_writing.2 _ _ parse_answeredText ?_).1⟩
    exact fun x mem _ => rereads x (List.mem_of_mem_drop (i := 2) mem)

end InferenceGateway
