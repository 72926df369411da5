/-!
# Separated fields

A text cut at every occurrence of one character. `n` separators give `n + 1` fields, some of which
may be empty.
-/

namespace InferenceGateway.Text

/-- The fields of a list of characters between the separators. -/
def fieldsOf (separator : Char) : List Char → List (List Char)
  | [] => [[]]
  | c :: rest =>
    if c = separator then [] :: fieldsOf separator rest
    else
      match fieldsOf separator rest with
      | [] => [[c]]
      | field :: fields => (c :: field) :: fields

/-- The fields of a text. -/
def fields (separator : Char) (s : String) : List String :=
  (fieldsOf separator s.toList).map String.ofList

/-- The texts in order, with a separator between them. -/
def join (separator : String) (texts : List String) : String :=
  String.ofList (List.intercalate separator.toList (texts.map String.toList))

end InferenceGateway.Text
