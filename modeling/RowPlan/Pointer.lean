import RowPlan.Value.Basic
import RowPlan.Text.Table

/-!
# Pointers

A pointer names a place in a document by the object keys and array indices that lead to it. Its text
joins the segments with slashes; inside a segment a tilde is written `~0` and a slash `~1`. The
empty text, `/`, `(root)` and any row of slashes name the whole document, a leading slash may be left
out, and empty segments do not count.
-/

namespace RowPlan.Pointer

/-- The pointer to the whole document. -/
def root : String := "/"

/-- Escape one character of a segment. -/
def escapeChar (c : Char) : List Char :=
  if c = '~' then ['~', '0'] else if c = '/' then ['~', '1'] else [c]

/-- The written form of a segment. -/
def escapeSegment (segment : String) : String :=
  String.ofList (segment.toList.flatMap escapeChar)

/-- Replace every occurrence of a tilde and a mark by a character, from left to right. -/
def unescapeMark (mark replacement : Char) : List Char → List Char
  | [] => []
  | '~' :: c :: rest =>
    if c = mark then replacement :: unescapeMark mark replacement rest
    else '~' :: unescapeMark mark replacement (c :: rest)
  | c :: rest => c :: unescapeMark mark replacement rest

/-- Read back a segment. The slashes come first, so that `~01` reads as `~1`. -/
def unescapeSegment (segment : String) : String :=
  String.ofList (unescapeMark '0' '~' (unescapeMark '1' '/' segment.toList))

/-- Whether a pointer names the whole document. -/
def isRoot (path : String) : Bool := path == "(root)" || path.toList.all (· == '/')

/-- The segments of a pointer. -/
def split (path : String) : List String :=
  if isRoot path then []
  else
    let body :=
      match path.toList with
      | '/' :: rest => rest
      | text => text
    ((Text.splitAtChar '/' body).filter (!·.isEmpty)).map fun part =>
      unescapeSegment (String.ofList part)

/-- The pointer with the given segments. -/
def join (segments : List String) : String :=
  match segments with
  | [] => root
  | _ => "/" ++ "/".intercalate (segments.map escapeSegment)

/-- The last segment of a pointer, empty if it names the whole document. -/
def lastSegment (path : String) : String := ((split path).getLast?).getD ""

/-- The item of an array that a segment names by an integer numeral. -/
def item? (items : List Value) (segment : String) : Option Value :=
  match Decimal.readInteger segment with
  | .value (.ofNat index) => items[index]?
  | _ => none

/-- Follow segments into a value: keys into objects, indices into arrays. -/
def follow : Value → List String → Option Value
  | value, [] => some value
  | .obj members, segment :: rest => (members.lookup segment).bind fun value => follow value rest
  | .arr items, segment :: rest => (item? items segment).bind fun value => follow value rest
  | _, _ :: _ => none

/-- The value that a pointer names in a document. -/
def resolve (document : Value) (path : String) : Option Value := follow document (split path)

end RowPlan.Pointer
