import RowPlan.Text.LetterCase
import RowPlan.Text.Decomposition

/-!
# Folding and trimming

Field names are compared by their folded form, which ignores case, accents and the compatibility
variants of a letter.
-/

namespace RowPlan.Text

/-- The folded form of one character. -/
def foldChar (c : Char) : List Char := (baseChars c).flatMap caseFoldChar

/-- The folded form of a text: decomposed, stripped of combining marks and case-folded. -/
def fold (text : String) : String := String.ofList (text.toList.flatMap foldChar)

/-- Drop the characters of a class from both ends. -/
def trimWhere (drop : Char → Bool) (text : List Char) : List Char :=
  ((text.dropWhile drop).reverse.dropWhile drop).reverse

/-- Drop blanks from both ends. -/
def trim (text : String) : String := String.ofList (trimWhere isBlank text.toList)

/-- Whether a text holds nothing but blanks. -/
def isBlankText (text : String) : Bool := text.toList.all isBlank

/-- The longest runs of characters of a class, in order. -/
def runsWhere (keep : Char → Bool) (text : List Char) : List (List Char) :=
  go [] text
where
  go (current : List Char) : List Char → List (List Char)
    | [] => if current.isEmpty then [] else [current.reverse]
    | c :: rest =>
      if keep c then go (c :: current) rest
      else if current.isEmpty then go [] rest
      else current.reverse :: go [] rest

/-- Whether a text contains another one as a contiguous part. -/
def contains (text part : String) : Bool :=
  go part.toList text.toList
where
  go (part : List Char) : List Char → Bool
    | [] => part.isEmpty
    | c :: rest => part.isPrefixOf (c :: rest) || go part rest

end RowPlan.Text
