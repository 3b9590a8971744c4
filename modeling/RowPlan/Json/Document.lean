import RowPlan.Json.Reader
import RowPlan.Text.Folding

/-!
# Documents

The ways in which a document arrives: as pasted text, where blank text is no document, as the content
of a text file, or as bytes. A file or bytes may begin with a byte order mark, and every kind of line
break in a file counts as a line feed.
-/

namespace RowPlan.Document

/-- Why there is no document. -/
inductive ReadError where
  | noSource
  | notText
  | malformed (error : Json.ReadError)

/-- The wording of a reading error. -/
def ReadError.message : ReadError → String
  | .noSource => "No file uploaded."
  | .notText => "the bytes are not UTF-8"
  | .malformed error => error.message

/-- The byte order mark. -/
def byteOrderMark : Char := Char.ofNat 0xFEFF

/-- A text without the byte order mark at its start. -/
def dropMark : List Char → List Char
  | [] => []
  | c :: rest => if c = byteOrderMark then rest else c :: rest

/-- A text with all line breaks written as line feeds. -/
def unifyLines : List Char → List Char
  | '\r' :: '\n' :: rest => '\n' :: unifyLines rest
  | '\r' :: rest => '\n' :: unifyLines rest
  | c :: rest => c :: unifyLines rest
  | [] => []

/-- The text of a file as it is read line by line. -/
def fileText (content : String) : String := String.ofList (unifyLines content.toList)

/-- The document in a pasted text, null if the text is blank. -/
def ofText (text : String) : Except ReadError Value :=
  if Text.isBlankText text then .ok .null else (Json.read text).mapError .malformed

/-- The document in a text that is read as it is. -/
def ofStream (text : String) : Except ReadError Value := (Json.read text).mapError .malformed

/-- The document in a file. -/
def ofFile (content : String) : Except ReadError Value :=
  ofStream (String.ofList (unifyLines (dropMark content.toList)))

/-- The document in some bytes. -/
def ofBytes (bytes : ByteArray) : Except ReadError Value :=
  match String.fromUTF8? bytes with
  | some text => ofStream (String.ofList (dropMark text.toList))
  | none => .error .notText

end RowPlan.Document
