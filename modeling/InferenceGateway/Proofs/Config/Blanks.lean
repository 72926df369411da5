import Mathlib
import InferenceGateway.Config.Load
import InferenceGateway.Proofs.Results
import InferenceGateway.Proofs.Text.Names
import InferenceGateway.Proofs.Text.Utf8

/-!
# Blank variables

Addresses, keys and the secret are read from seven variables, and one of these that is blank, or no
text at all, counts as not set. Jan's key counts only while Jan's address is set. What is set is
taken over: keys and the secret as they are, addresses without the blanks around them and without
the slashes at their end.

* `Text.Unended`: texts without a run at their end; `Config.Address` is a trimmed one of these.
* `Config.Environment.Gives`: what a variable gives, if anything; `Config.Environment.gives_iff`
  says that it is read so.
* `Config.Environment.Alike`: environments that differ at most in variables that give the same, from
  which the same is loaded (`Config.load_congr`).
* `Config.Settings.TakenFrom`: the settings hold what the variables give.
* `Config.blank_is_unset`: all of this, for every environment.
-/

namespace InferenceGateway

/-! ## Addresses -/

namespace Text

/-- A text without the run of one character at its end. -/
structure Unended (mark : Char) (s t : String) : Prop where
  within : ∃ n, s.toList = t.toList ++ List.replicate n mark
  back : t.toList.getLast? ≠ some mark

/-- To drop the run at the end leaves a text that does not end in this character. -/
theorem unended_iff {mark : Char} {s t : String} : Unended mark s t ↔ dropEndRun mark s = t := by
  have run : dropEndRun mark s = .ofList (s.toList.rdropWhile (· == mark)) := rfl
  rw [run, String.ofList_eq, rdropWhile_eq_iff]
  constructor
  · rintro ⟨⟨n, eq⟩, back⟩
    refine ⟨.replicate n mark, eq, fun c mem => ?_, fun c last => ?_⟩
    · exact beq_iff_eq.mpr (List.eq_of_mem_replicate mem)
    · refine beq_eq_false_iff_ne.mpr fun same => back ?_
      rw [← same, last]
  · rintro ⟨run, eq, all, last⟩
    refine ⟨⟨run.length, ?_⟩, fun same => ?_⟩
    · have same : run = List.replicate run.length mark :=
        List.eq_replicate_of_mem fun c mem => beq_iff_eq.mp (all c mem)
      rw [eq, ← same]
    · simpa using last mark same

end Text

namespace Config

/-- An address as it is taken over: first trimmed, then without the slashes at its end. -/
def Address (s url : String) : Prop :=
  ∃ t, Text.Trimmed s t ∧ Text.Unended '/' t url

/-- Both steps say what becomes of an address, and nothing else. -/
theorem address_iff {s url : String} : Address s url ↔ Environment.address s = url := by
  unfold Address Environment.address
  simp only [Text.trimmed_iff, Text.unended_iff]
  exact ⟨fun ⟨t, eq, rest⟩ => eq ▸ rest, fun h => ⟨_, rfl, h⟩⟩

/-! ## What variables say -/

/-- The variables for which blank means unset. -/
def fillable : List String :=
  ["JAN_INFERENCE_MODEL_URL", "JAN_INFERENCE_API_KEY", "OPENROUTER_BASE_URL", "OPENROUTER_API_KEY",
    "GEMINI_BASE_URL", "GEMINI_API_KEY", "APIKEY_SECRET"]

/-- Values that say nothing: texts of blanks only, and bytes of no text. -/
inductive Void : List UInt8 → Prop where
  | blank {s : String} (all : ∀ c ∈ s.toList, Text.isBlank c = true) : Void (Text.bytesOf s)
  | foreign {bytes : List UInt8} (none : ∀ s, Text.bytesOf s ≠ bytes) : Void bytes

/-- A value says nothing if it is no text that has other than blanks. -/
theorem void_iff {bytes : List UInt8} :
    Void bytes ↔ ∀ s, Text.decode? bytes = some s → Text.isBlankText s = true := by
  unfold Text.isBlankText
  simp only [List.all_eq_true, Text.decode?_eq_some_iff]
  constructor
  · intro void s eq
    cases void with
    | @blank s' all =>
      have same : some s' = some s := by
        rw [← Text.decode?_bytesOf s', eq, Text.decode?_bytesOf]
      cases same
      exact all
    | foreign none => exact (none s eq.symm).elim
  · intro all
    by_cases text : ∃ s, Text.bytesOf s = bytes
    · obtain ⟨s, rfl⟩ := text
      exact .blank (all s rfl)
    · exact .foreign fun s eq => text ⟨s, eq⟩

namespace Environment

/-- What a variable gives, if anything. -/
inductive Gives (env : Environment) (name : String) : Option String → Prop where
  | unset (unset : env name = none) : Gives env name none
  | void {bytes : List UInt8} (value : env name = some bytes) (void : Void bytes) :
    Gives env name none
  | text {s : String} (value : env name = some (Text.bytesOf s))
    (filled : ∃ c ∈ s.toList, Text.isBlank c = false) : Gives env name (some s)

variable {env env' : Environment}

/-- A text is not blank if one of its characters is not. -/
theorem isBlankText_eq_false_iff {s : String} :
    Text.isBlankText s = false ↔ ∃ c ∈ s.toList, Text.isBlank c = false := by
  unfold Text.isBlankText
  rw [List.all_eq_false]
  simp only [Bool.not_eq_true]

/-- A variable is read as what it gives. -/
theorem gives_iff {name : String} {said : Option String} :
    env.Gives name said ↔ env.filled? name = said := by
  unfold filled? text?
  constructor
  · intro gives
    cases gives with
    | unset unset => rw [unset]; rfl
    | void value void =>
      rw [value, Option.bind_some, Option.filter_eq_none_iff]
      intro s text
      simp [void_iff.mp void s text]
    | text value filled =>
      rw [value, Option.bind_some, Text.decode?_bytesOf, Option.filter_some, if_pos]
      rw [isBlankText_eq_false_iff.mpr filled]
      rfl
  · rintro rfl
    cases value : env name with
    | none => exact .unset value
    | some bytes =>
      rw [Option.bind_some]
      cases text : Text.decode? bytes with
      | none => exact .void value (void_iff.mpr fun s read => by rw [text] at read; cases read)
      | some s =>
        cases Text.decode?_eq_some_iff.mp text
        rw [Option.filter_some]
        cases blank : Text.isBlankText s with
        | true => exact .void value (.blank (List.all_eq_true.mp blank))
        | false => exact .text value (isBlankText_eq_false_iff.mp blank)

/-! ## Environments that give the same -/

/-- The environment with another value for one variable, or without it. -/
def set (env : Environment) (name : String) (value : Option (List UInt8)) : Environment :=
  fun other => if other = name then value else env other

@[simp] theorem set_self (name : String) (value : Option (List UInt8)) :
    env.set name value name = value :=
  if_pos rfl

theorem set_other {name other : String} (value : Option (List UInt8)) (h : other ≠ name) :
    env.set name value other = env other :=
  if_neg h

theorem text?_set_other {name other : String} (value : Option (List UInt8)) (h : other ≠ name) :
    (env.set name value).text? other = env.text? other := by
  unfold text?
  rw [set_other value h]

theorem filled?_set_other {name other : String} (value : Option (List UInt8)) (h : other ≠ name) :
    (env.set name value).filled? other = env.filled? other := by
  unfold filled?
  rw [text?_set_other value h]

/-- Two environments differ at most in what blank variables hold, and in Jan's key if there is no
address for it. -/
structure Alike (env env' : Environment) : Prop where
  text : ∀ name, name ∉ fillable → env.text? name = env'.text? name
  filled : ∀ name, name ∈ fillable → name ≠ "JAN_INFERENCE_API_KEY" →
    env.filled? name = env'.filled? name
  janKey : env.filled? "JAN_INFERENCE_MODEL_URL" ≠ none →
    env.filled? "JAN_INFERENCE_API_KEY" = env'.filled? "JAN_INFERENCE_API_KEY"

/-- A value that says nothing is as good as none. -/
theorem alike_set_void {name : String} (fills : name ∈ fillable) {value : List UInt8}
    (void : Void value) : Alike (env.set name (some value)) (env.set name none) := by
  -- Neither value fills the variable, so a reader of filled variables sees no difference.
  have filled (other : String) :
      (env.set name (some value)).filled? other = (env.set name none).filled? other := by
    by_cases here : other = name
    · subst here
      rw [gives_iff.mp (.void (set_self _ _) void), gives_iff.mp (.unset (set_self _ _))]
    · rw [filled?_set_other _ here, filled?_set_other _ here]
  refine ⟨fun other kept => ?_, fun other _ _ => filled other, fun _ => filled _⟩
  have apart : other ≠ name := fun same => kept (same ▸ fills)
  rw [text?_set_other _ apart, text?_set_other _ apart]

/-- Without an address for Jan its key does not matter. -/
theorem alike_set_janKey (off : env.Gives "JAN_INFERENCE_MODEL_URL" none)
    (value : Option (List UInt8)) : Alike (env.set "JAN_INFERENCE_API_KEY" value) env := by
  refine ⟨fun other kept => ?_, fun other _ apart => filled?_set_other value apart, fun on => ?_⟩
  · have apart : other ≠ "JAN_INFERENCE_API_KEY" := fun same => kept (same ▸ by decide)
    exact text?_set_other value apart
  · rw [filled?_set_other value (by decide)] at on
    exact (on (gives_iff.mp off)).elim

namespace Alike

variable (alike : Alike env env')
include alike

theorem port : env.port = env'.port := by
  unfold Environment.port
  rw [alike.text "SERVER_PORT" (by decide)]

/-- A number of seconds is read from a variable that blank does not unset. -/
theorem seconds {name : String} (kept : name ∉ fillable) (standard : Nat) :
    env.seconds name standard = env'.seconds name standard := by
  unfold Environment.seconds
  rw [alike.text name kept]

theorem timeouts : env.timeouts = env'.timeouts := by
  unfold Environment.timeouts
  rw [alike.seconds (by decide), alike.seconds (by decide), alike.seconds (by decide)]

theorem listing : env.listing = env'.listing := by
  unfold Environment.listing Environment.lenientSeconds
  rw [alike.text "MODEL_REGISTRY_PRIORITY" (by decide),
    alike.text "MODEL_REGISTRY_REFRESH_INTERVAL" (by decide),
    alike.text "MODEL_REGISTRY_PROVIDER_TIMEOUT" (by decide)]

theorem logging : env.logging = env'.logging := by
  have kept : ∀ entry ∈ Environment.loggedModules, entry.2 ∉ fillable := by decide
  unfold Environment.logging
  rw [alike.text "LOG_LEVEL" (by decide), alike.text "LOG_FORMAT" (by decide)]
  congr 1
  refine List.filterMap_congr fun entry mem => ?_
  dsimp only
  rw [alike.text entry.2 (kept entry mem)]

/-- The key for Jan is looked at only where there is an address for it. -/
theorem jan : env.jan = env'.jan := by
  unfold Environment.jan
  rw [← alike.filled "JAN_INFERENCE_MODEL_URL" (by decide) (by decide)]
  cases url : env.filled? "JAN_INFERENCE_MODEL_URL" with
  | none => rfl
  | some s => rw [alike.janKey (by rw [url]; nofun)]

/-- Addresses and keys are looked at only as far as they are filled. -/
theorem endpoint {urlName keyName : String} (standard : String)
    (url : urlName ∈ fillable ∧ urlName ≠ "JAN_INFERENCE_API_KEY")
    (key : keyName ∈ fillable ∧ keyName ≠ "JAN_INFERENCE_API_KEY") :
    env.endpoint urlName keyName standard = env'.endpoint urlName keyName standard := by
  unfold Environment.endpoint
  rw [alike.filled urlName url.1 url.2, alike.filled keyName key.1 key.2]

theorem secret : env.secret = env'.secret := by
  unfold Environment.secret
  rw [alike.filled "APIKEY_SECRET" (by decide) (by decide)]

end Alike

end Environment

variable {env env' : Environment} {stored : String → Stored} {settings : Settings}

/-- What is loaded does not tell such environments apart, nor does the error. -/
theorem load_congr (alike : env.Alike env') : load env stored = load env' stored := by
  unfold load Settings.ofEnvironment
  rw [alike.port, alike.timeouts, alike.listing, alike.secret, alike.jan, alike.logging,
    alike.endpoint _ (by decide) (by decide), alike.endpoint _ (by decide) (by decide),
    alike.text "SERVER_HOST" (by decide), alike.text fileVariable (by decide)]

/-! ## What is taken over -/

/-- Jan's endpoint as its variables give it; there is one exactly if they give an address. -/
inductive JanFrom (env : Environment) : Option Endpoint → Prop where
  | off (unset : env.Gives "JAN_INFERENCE_MODEL_URL" none) : JanFrom env none
  | on {url : String} {e : Endpoint} (set : env.Gives "JAN_INFERENCE_MODEL_URL" (some url))
    (address : Address url e.baseUrl) (key : env.Gives "JAN_INFERENCE_API_KEY" e.key) :
    JanFrom env (some e)

/-- An endpoint with a standard address as its variables give it. -/
structure EndpointFrom (env : Environment) (urlName keyName standard : String) (e : Endpoint) :
    Prop where
  address : ∃ url, env.Gives urlName url ∧ Address (url.getD standard) e.baseUrl
  key : env.Gives keyName e.key

/-- The settings hold what the variables give. -/
structure Settings.TakenFrom (env : Environment) (s : Settings) : Prop where
  jan : JanFrom env s.jan
  openRouter : EndpointFrom env "OPENROUTER_BASE_URL" "OPENROUTER_API_KEY"
    "https://openrouter.ai/api/v1" s.openRouter
  gemini : EndpointFrom env "GEMINI_BASE_URL" "GEMINI_API_KEY"
    "https://generativelanguage.googleapis.com/v1beta" s.gemini
  secret : env.Gives "APIKEY_SECRET" (some s.secret)

/-- Jan has an endpoint exactly if there is an address for it. -/
theorem janFrom_jan : JanFrom env env.jan := by
  unfold Environment.jan
  cases url : env.filled? "JAN_INFERENCE_MODEL_URL" with
  | none => exact .off (Environment.gives_iff.mpr url)
  | some s =>
    exact .on (Environment.gives_iff.mpr url) (address_iff.mpr rfl) (Environment.gives_iff.mpr rfl)

/-- The standard address steps in where there is none. -/
theorem endpointFrom_endpoint (urlName keyName standard : String) :
    EndpointFrom env urlName keyName standard (env.endpoint urlName keyName standard) where
  address := ⟨_, Environment.gives_iff.mpr rfl, address_iff.mpr rfl⟩
  key := Environment.gives_iff.mpr rfl

/-- The secret is taken as it is, blanks around it too. -/
theorem gives_of_secret {s : String} (h : env.secret = .ok s) :
    env.Gives "APIKEY_SECRET" (some s) := by
  rw [Environment.gives_iff]
  unfold Environment.secret at h
  split at h
  · next filled => cases h; exact filled
  · cases h

/-- What can fail comes first; the rest is taken over. -/
theorem takenFrom_of_ofEnvironment (h : Settings.ofEnvironment env = .ok settings) :
    settings.TakenFrom env := by
  unfold Settings.ofEnvironment at h
  obtain ⟨port, -, h⟩ := bind_eq_ok_iff.mp h
  obtain ⟨timeouts, -, h⟩ := bind_eq_ok_iff.mp h
  obtain ⟨listing, -, h⟩ := bind_eq_ok_iff.mp h
  obtain ⟨secret, given, h⟩ := bind_eq_ok_iff.mp h
  cases h
  exact ⟨janFrom_jan, endpointFrom_endpoint _ _ _, endpointFrom_endpoint _ _ _,
    gives_of_secret given⟩

/-- The gateway file adds to the settings and takes nothing away. -/
theorem takenFrom_of_load (h : load env stored = .ok settings) : settings.TakenFrom env := by
  unfold load at h
  obtain ⟨s, first, h⟩ := bind_eq_ok_iff.mp h
  have taken := takenFrom_of_ofEnvironment (mapError_eq_ok_iff.mp first)
  -- With or without a file, what comes from the environment stays.
  split at h
  · cases h
    exact taken
  · obtain ⟨file, -, h⟩ := bind_eq_ok_iff.mp h
    cases h
    exact ⟨taken.jan, taken.openRouter, taken.gemini, taken.secret⟩

/--
Blank is unset. For the address and key of each provider and for the secret, a value that says
nothing leads to the same configuration, or the same error, as none, and so does any value of Jan's
key while there is no address for Jan. A configuration that is loaded holds what the variables give:
keys and the secret unchanged, addresses trimmed and then without the slashes at their end.
-/
theorem blank_is_unset (env : Environment) (stored : String → Stored) :
    (∀ name ∈ fillable, ∀ value, Void value →
        load (env.set name (some value)) stored = load (env.set name none) stored)
      ∧ (env.Gives "JAN_INFERENCE_MODEL_URL" none → ∀ value,
        load (env.set "JAN_INFERENCE_API_KEY" value) stored = load env stored)
      ∧ ∀ settings, load env stored = .ok settings → settings.TakenFrom env := by
  refine ⟨fun name fills value void => ?_, fun off value => ?_, fun settings h => ?_⟩
  · exact load_congr (Environment.alike_set_void fills void)
  · exact load_congr (Environment.alike_set_janKey off value)
  · exact takenFrom_of_load h

/-- Variables with an ideographic space for Jan's address, blanks and slashes around the one of
OpenRouter, no text for Gemini's key, and a secret between blanks. -/
def halfBlank : Environment :=
  ((((Environment.set (fun _ => none) "JAN_INFERENCE_MODEL_URL" (some [0xE3, 0x80, 0x80])).set
    "JAN_INFERENCE_API_KEY" (some [0x6B])).set
    "OPENROUTER_BASE_URL" (some [0x20, 0x6F, 0x2F, 0x76, 0x2F, 0x2F, 0x0A])).set
    "GEMINI_API_KEY" (some [0xFF])).set
    "APIKEY_SECRET" (some [0x20, 0x73, 0x20])

/-- Blank values unset Jan and a key, and the others are taken over. -/
theorem half_blank_is_half_unset :
    ∃ settings, load halfBlank (fun _ => .missing) = .ok settings ∧ settings.TakenFrom halfBlank
      ∧ settings.jan = none ∧ settings.openRouter.baseUrl = "o/v" ∧ settings.gemini.key = none
      ∧ settings.secret = " s "
      ∧ load (halfBlank.set "GEMINI_API_KEY" (some [0xFF])) (fun _ => .missing)
        = load (halfBlank.set "GEMINI_API_KEY" none) (fun _ => .missing)
      ∧ load (halfBlank.set "JAN_INFERENCE_API_KEY" none) (fun _ => .missing)
        = load halfBlank (fun _ => .missing) := by
  obtain ⟨unset, off, taken⟩ := blank_is_unset halfBlank fun _ => .missing
  have text : Text.decode? [0xFF] = none := by rfl
  have noText : Void [0xFF] := void_iff.mpr fun s read => by rw [text] at read; cases read
  have jan : halfBlank.Gives "JAN_INFERENCE_MODEL_URL" none := Environment.gives_iff.mpr rfl
  refine ⟨_, rfl, taken _ rfl, rfl, rfl, rfl, rfl, ?_, off jan none⟩
  exact unset "GEMINI_API_KEY" (by decide) _ noText

end Config

end InferenceGateway
