import InferenceGateway.Json.Decode
import InferenceGateway.Text.Blank
import InferenceGateway.Text.Case

/-!
# Providers

The three providers behind the gateway, their names, and reading a name. Names in configuration
are trimmed and their case does not matter; in JSON they are written exactly.

* `Provider.id`, `Provider.displayName`: the two names of a provider.
* `Provider.ofText`: the provider that a configured name means.
* `Provider.all`: every provider once, in the default order of priority.
-/

namespace InferenceGateway

/-- A provider of models. -/
inductive Provider where
  | jan
  | openRouter
  | gemini
  deriving DecidableEq, Repr, Inhabited

namespace Provider

/-- Every provider, in the default order of priority. -/
def all : List Provider := [jan, openRouter, gemini]

/-- The name in requests, listings and messages. -/
def id : Provider → String
  | jan => "jan"
  | openRouter => "openrouter"
  | gemini => "gemini"

/-- The name for people. -/
def displayName : Provider → String
  | jan => "Jan Inference"
  | openRouter => "OpenRouter"
  | gemini => "Google Gemini"

/-- The provider whose name a text is, letter by letter. -/
def ofId? (s : String) : Option Provider :=
  all.find? fun p => p.id == s

/-- The provider that a name means; else the name as it was understood. -/
def ofText (s : String) : Except String Provider :=
  let name := Text.lowerAscii (Text.trim s)
  match ofId? name with
  | some p => .ok p
  | none => .error name

/-- The message about a name that means no provider. -/
def unknownMessage (name : String) : String :=
  "unknown provider: " ++ name

/-- The place of a provider in an ordering of all of them. -/
def rank : Provider → Nat
  | jan => 0
  | openRouter => 1
  | gemini => 2

theorem mem_all (p : Provider) : p ∈ all := by cases p <;> simp [all]

theorem ofId?_id (p : Provider) : ofId? p.id = some p := by cases p <;> rfl

/-- The provider of a name in JSON that ends before `stop`. -/
def named (name : String) (stop : Json.Offset) : Except Json.Error Provider :=
  match ofId? name with
  | some p => .ok p
  | none => .error ((Json.Cause.unknownVariant name (all.map id)).at stop)

/-- Reads a name between quotes. -/
def readName (node : Json.Node) : Except Json.Error Provider :=
  match node with
  | .string value _ stop => do named (← value) stop
  | node => .error (node.refuse "variant identifier")

/-- Reads the null that may follow a name in an object; `c` stands behind the name. -/
def readNull (fuel : Nat) (c : Json.Cursor) : Except Json.Error Json.Cursor :=
  let c := c.skip
  match c.rest with
  | [] => .error (Json.Cause.endInObject.at c.offset)
  | 0x3A :: _ =>
    match Json.readValue fuel 1 c.next with
    | (.null _ _, some after) =>
      let after := after.skip
      match after.rest with
      | [] => .error (Json.Cause.endInObject.at after.offset)
      | 0x7D :: _ => .ok after.next
      | _ :: _ => .error (Json.Cause.expectedValue.at after.offset)
    | (node, _) => .error (node.refuse "unit")
  | _ :: _ => .error (Json.Cause.expectedColon.at (c.offset + 1))

/--
Reads the name of a provider from a text that holds nothing else. The name stands alone, or as the
only key of an object over null.
-/
def parse (text : List UInt8) : Except Json.Error Provider := do
  let fuel := 2 * text.length + 2
  let c : Json.Cursor := Json.Cursor.skip ⟨text, 0⟩
  let (p, after) ← match c.rest with
    | [] => throw (Json.Cause.endInValue.at c.offset)
    | 0x7B :: _ =>
      let (node, after?) := Json.readValue fuel 1 c.next
      let p ← readName node
      match after? with
      | some after => pure (p, ← readNull fuel after)
      | none => throw (Json.Cause.endInObject.at c.offset)
    | 0x22 :: _ =>
      let (node, after?) := Json.readValue fuel 0 c
      let p ← readName node
      pure (p, after?.getD c)
    | _ :: _ => throw (Json.Cause.expectedValue.at (c.offset + 1))
  let after := after.skip
  match after.rest with
  | [] => return p
  | _ :: _ => throw (Json.Cause.trailingCharacters.at (after.offset + 1))

end Provider

end InferenceGateway
