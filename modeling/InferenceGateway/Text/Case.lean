/-!
# ASCII case

Names of providers, roles and schemes are compared without regard to the case of the ASCII
letters; every other character counts as it stands.
-/

namespace InferenceGateway.Text

/-- Lowercases the ASCII letters and leaves all other characters. -/
def lowerAscii (s : String) : String :=
  String.ofList (s.toList.map Char.toLower)

/-- Equality up to the case of ASCII letters. -/
def equalsIgnoringCase (a b : String) : Bool :=
  a.toList.map Char.toLower == b.toList.map Char.toLower

/-- The visible ASCII characters, from `!` to `~`. -/
def isVisibleAscii (c : Char) : Bool :=
  0x21 ≤ c.toNat && c.toNat ≤ 0x7E

/-- The text behind `start`, if the text starts with it. -/
def dropStart? (start s : String) : Option String :=
  if start.toList.isPrefixOf s.toList then
    some (String.ofList (s.toList.drop start.toList.length))
  else
    none

/-- The text without one leading `start`; a text that does not start with it stays. -/
def withoutStart (start s : String) : String :=
  (dropStart? start s).getD s

/-- The text without the run of `c` at its end. -/
def dropEndRun (c : Char) (s : String) : String :=
  String.ofList (s.toList.reverse.dropWhile (· == c)).reverse

end InferenceGateway.Text
