import RowPlan.Json.Reader

/-!
# The grammar of JSON texts

What a JSON text is, apart from any way of reading it. `Writes names text part` says that a text writes a
value, or the items of an array or the members of an object up to their closing bracket. The names of each
object have to obey `names`; JSON texts in general repeat them at will, and an object then has the last
value of each.

A text that writes a value starts with a character that is no white space and no closing bracket. An object
is told from other values by its braces.
-/

namespace RowPlan.Json

/-- Text that may stand between tokens. -/
def Spaces (text : List Char) : Prop := ∀ c ∈ text, isSpace c = true

/-! ## Tokens -/

/-- Whether a character stands for itself in a string. -/
def isPlain (c : Char) : Bool := c != '"' && c != '\\' && decide (32 ≤ c.toNat)

theorem isPlain_iff {c : Char} : isPlain c = true ↔ c ≠ '"' ∧ c ≠ '\\' ∧ 32 ≤ c.toNat := by
  simp [isPlain, and_assoc]

/-- The characters between the quotes of a string, with the codes that they stand for. -/
inductive StringBody : List Char → List Nat → Prop where
  | nil : StringBody [] []
  | plain {c body codes} :
      isPlain c = true → StringBody body codes → StringBody (c :: body) (c.toNat :: codes)
  | escape {c code body codes} :
      simpleEscape? c = some code → StringBody body codes →
      StringBody ('\\' :: c :: body) (code :: codes)
  | unicode {a b c d code body codes} :
      hexCode? a b c d = some code → StringBody body codes →
      StringBody ('\\' :: 'u' :: a :: b :: c :: d :: body) (code :: codes)

/-- The text of a list of codes. -/
def textOf (codes : List Nat) : String := String.ofList (joinSurrogates codes)

/-- Digits, and at least one. -/
def Digits (text : List Char) : Prop := text ≠ [] ∧ ∀ c ∈ text, c.isDigit = true

/-- An integer without leading zeros. -/
def IsWhole (text : List Char) : Prop := text = ['0'] ∨ Digits text ∧ text.head? ≠ some '0'

/-- A fraction, if there is one. -/
inductive IsFraction : List Char → Prop where
  | none : IsFraction []
  | digits {digits} : Digits digits → IsFraction ('.' :: digits)

/-- An exponent, if there is one. -/
inductive IsExponent : List Char → Prop where
  | none : IsExponent []
  | digits {mark sign digits} :
      mark = 'e' ∨ mark = 'E' → sign = [] ∨ sign = ['+'] ∨ sign = ['-'] → Digits digits →
      IsExponent (mark :: (sign ++ digits))

/-- The parts of a number. An integer alone must not be too long. -/
structure NumberParts (sign whole fraction exponent : List Char) : Prop where
  isSign : sign = [] ∨ sign = ['-']
  isWhole : IsWhole whole
  isFraction : IsFraction fraction
  isExponent : IsExponent exponent
  short : fraction = [] → exponent = [] → whole.length ≤ Decimal.digitLimit

/-- Words and numbers. -/
inductive ScalarText : List Char → Value → Prop where
  | word {word value} : (word, value) ∈ words → ScalarText word.toList value
  | number {sign whole fraction exponent} :
      NumberParts sign whole fraction exponent →
      ScalarText (sign ++ (whole ++ (fraction ++ exponent)))
        (.num (numberOf sign whole fraction exponent))

/-- The name of a member and the colon after it, with white space around the colon. -/
inductive NameText : List Char → String → Prop where
  | name {body codes gap gap'} :
      StringBody body codes → Spaces gap → Spaces gap' →
      NameText ('"' :: (body ++ '"' :: (gap ++ ':' :: gap'))) (textOf codes)

/-! ## Texts -/

/-- What a part of a text may write. -/
inductive Part where
  | value (value : Value)
  | items (items : List Value)
  | members (members : List (String × Value))

/-- The text writes the part. -/
inductive Writes (names : List String → Prop) : List Char → Part → Prop where
  | scalar {text value} : ScalarText text value → Writes names text (.value value)
  | string {body codes} :
      StringBody body codes → Writes names ('"' :: (body ++ ['"'])) (.value (.str (textOf codes)))
  | emptyArray {gap} : Spaces gap → Writes names ('[' :: (gap ++ [']'])) (.value (.arr []))
  | array {gap text items} :
      Spaces gap → Writes names text (.items items) →
      Writes names ('[' :: (gap ++ text)) (.value (.arr items))
  | emptyObject {gap} : Spaces gap → Writes names ('\x7b' :: (gap ++ ['\x7d'])) (.value (.obj []))
  | object {gap text members} :
      Spaces gap → Writes names text (.members members) → names (members.map Prod.fst) →
      Writes names ('\x7b' :: (gap ++ text)) (.value (.obj (Row.ofPairs members)))
  | lastItem {text item gap} :
      Writes names text (.value item) → Spaces gap →
      Writes names (text ++ (gap ++ [']'])) (.items [item])
  | item {text item gap gap' rest items} :
      Writes names text (.value item) → Spaces gap → Spaces gap' → Writes names rest (.items items) →
      Writes names (text ++ (gap ++ ',' :: (gap' ++ rest))) (.items (item :: items))
  | lastMember {opening name text value gap} :
      NameText opening name → Writes names text (.value value) → Spaces gap →
      Writes names (opening ++ (text ++ (gap ++ ['\x7d']))) (.members [(name, value)])
  | member {opening name text value gap gap' rest members} :
      NameText opening name → Writes names text (.value value) → Spaces gap → Spaces gap' →
      Writes names rest (.members members) →
      Writes names (opening ++ (text ++ (gap ++ ',' :: (gap' ++ rest))))
        (.members ((name, value) :: members))

/-! ## The first character -/

/-- What a word or a number starts with. -/
def OpensScalar (c : Char) : Prop := c.isDigit = true ∨ c ∈ ['-', 'n', 't', 'f', 'N', 'I']

/-- What a value starts with: neither white space nor a closing bracket, and no byte order mark. -/
def OpensValue (c : Char) : Prop := OpensScalar c ∨ c = '"' ∨ c = '[' ∨ c = '\x7b'

instance (c : Char) : Decidable (OpensScalar c) := inferInstanceAs (Decidable (_ ∨ _))

instance (c : Char) : Decidable (OpensValue c) := inferInstanceAs (Decidable (_ ∨ _))

theorem IsWhole.opening
    {whole : List Char} (written : IsWhole whole) :
    ∃ c rest, whole = c :: rest ∧ c.isDigit = true := by
  rcases written with rfl | ⟨⟨notEmpty, digits⟩, _⟩
  · exact ⟨'0', [], rfl, rfl⟩
  · rcases List.exists_cons_of_ne_nil notEmpty with ⟨c, rest, rfl⟩
    exact ⟨c, rest, rfl, digits c List.mem_cons_self⟩

theorem ScalarText.opening
    {text : List Char} {value : Value} (written : ScalarText text value) :
    ∃ c rest, text = c :: rest ∧ OpensScalar c := by
  cases written with
  | word member =>
      simp only [words, List.mem_cons, List.not_mem_nil, or_false, Prod.mk.injEq] at member
      rcases member with ⟨rfl, rfl⟩ | ⟨rfl, rfl⟩ | ⟨rfl, rfl⟩ | ⟨rfl, rfl⟩ | ⟨rfl, rfl⟩ | ⟨rfl, rfl⟩
      all_goals exact ⟨_, _, rfl, .inr (by decide)⟩
  | number parts =>
      rcases parts.isSign with rfl | rfl
      · rcases parts.isWhole.opening with ⟨c, rest, rfl, digit⟩
        exact ⟨c, _, rfl, .inl digit⟩
      · exact ⟨'-', _, rfl, .inr List.mem_cons_self⟩

theorem NameText.opening
    {text : List Char} {name : String} (written : NameText text name) : ∃ rest, text = '"' :: rest := by
  cases written with
  | name body gap gap' => exact ⟨_, rfl⟩

/-- Whatever is written starts with a character that starts a value. -/
theorem Writes.opening
    {names : List String → Prop} {text : List Char} {part : Part} (written : Writes names text part) :
    ∃ c rest, text = c :: rest ∧ OpensValue c := by
  induction written with
  | scalar scalarText =>
      rcases scalarText.opening with ⟨c, rest, rfl, opens⟩
      exact ⟨c, rest, rfl, .inl opens⟩
  | string => exact ⟨'"', _, rfl, .inr (.inl rfl)⟩
  | emptyArray | array => exact ⟨'[', _, rfl, .inr (.inr (.inl rfl))⟩
  | emptyObject | object => exact ⟨'\x7b', _, rfl, .inr (.inr (.inr rfl))⟩
  | lastItem _ _ first | item _ _ _ _ first _ =>
      rcases first with ⟨c, rest, rfl, opens⟩
      exact ⟨c, _, rfl, opens⟩
  | lastMember name | member name =>
      rcases name.opening with ⟨rest, rfl⟩
      exact ⟨'"', _, rfl, .inr (.inl rfl)⟩

/-- Names are repeated at will. -/
def anyNames (_ : List String) : Prop := True

/-- A JSON text: a value with white space around it. -/
inductive IsText (names : List String → Prop) : List Char → Value → Prop where
  | value {before text after value} :
      Spaces before → Writes names text (.value value) → Spaces after →
      IsText names (before ++ (text ++ after)) value

end RowPlan.Json
