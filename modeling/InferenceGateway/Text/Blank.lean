/-!
# White space

The characters of the Unicode property `White_Space`, and trimming by it. Model names, keys,
tokens and configuration values are all trimmed by this one set, which is larger than the ASCII
blanks: U+0085, U+00A0 and U+3000 belong to it, U+200B and U+FEFF do not.

* `Char.isBlank`: membership.
* `trim`, `trimStart`: a text without its outer blanks.
* `isBlankText`: nothing but blanks.
* `words`: the maximal runs of other characters.
-/

namespace InferenceGateway.Text

/-- The code points of the Unicode property `White_Space`, as closed ranges. -/
def blankRanges : List (Nat × Nat) :=
  [(0x09, 0x0D), (0x20, 0x20), (0x85, 0x85), (0xA0, 0xA0), (0x1680, 0x1680), (0x2000, 0x200A),
   (0x2028, 0x2029), (0x202F, 0x202F), (0x205F, 0x205F), (0x3000, 0x3000)]

/-- A character is blank when its code point lies in one of `blankRanges`. -/
def isBlank (c : Char) : Bool :=
  blankRanges.any fun (low, high) => low ≤ c.toNat && c.toNat ≤ high

/-- Drops blanks from the end of a list of characters. -/
def dropBlankEnd (cs : List Char) : List Char :=
  (cs.reverse.dropWhile isBlank).reverse

/-- Drops the blanks at the start of a text. -/
def trimStart (s : String) : String :=
  String.ofList (s.toList.dropWhile isBlank)

/-- Drops the blanks at both ends of a text. -/
def trim (s : String) : String :=
  String.ofList (dropBlankEnd (s.toList.dropWhile isBlank))

/-- Whether a text holds nothing but blanks; the empty text does. -/
def isBlankText (s : String) : Bool :=
  s.toList.all isBlank

/-- The runs of non-blank characters, from left to right. -/
def words (s : String) : List (List Char) :=
  (s.toList.splitBy fun a b => isBlank a == isBlank b).filter fun run => !run.all isBlank

end InferenceGateway.Text
