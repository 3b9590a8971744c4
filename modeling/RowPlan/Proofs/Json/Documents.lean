import RowPlan.Proofs.Json.Recognition
import RowPlan.Proofs.Json.Writing
import RowPlan.Proofs.Value.WellFormed

/-!
# What holds of documents

Whatever a JSON text repeats, the value that it writes is well-formed: the members of an object are given to
an empty row one after the other, and there a repeated name only changes its value.

Every document can be written again as well. A number with too many digits is not read, so only what is
computed from a document can hold an integer without a text.
-/

namespace RowPlan

theorem Row.mem_of_mem_ofPairs
    {pairs : List (String × Value)} {field : String × Value} (member : field ∈ Row.ofPairs pairs) :
    field ∈ pairs := by
  rcases Row.mem_of_mem_setAll member with impossible | given
  · cases impossible
  · exact given

namespace Json

/-- A property of values that the words, numbers and strings of JSON have, and that arrays and objects have
when their parts do. -/
structure BuiltUp (property : Value → Prop) : Prop where
  scalar : ∀ {text value}, ScalarText text value → property value
  string : ∀ text, property (.str text)
  array : ∀ {items}, (∀ item ∈ items, property item) → property (.arr items)
  object :
    ∀ {members}, (∀ member ∈ members, property member.2) → property (.obj (Row.ofPairs members))

/-- A part of a text has a property if its values have it. -/
def Part.All (property : Value → Prop) : Part → Prop
  | .value single => property single
  | .items list => ∀ item ∈ list, property item
  | .members list => ∀ member ∈ list, property member.2

/-- Whatever is written has the property. -/
theorem Writes.all
    {property : Value → Prop} (built : BuiltUp property) {names : List String → Prop}
    {text : List Char} {part : Part} (written : Writes names text part) :
    part.All property := by
  induction written with
  | scalar written => exact built.scalar written
  | string => exact built.string _
  | emptyArray => exact built.array (List.forall_mem_nil _)
  | array _ _ items => exact built.array items
  | emptyObject => exact built.object (List.forall_mem_nil _)
  | object _ _ _ members => exact built.object members
  | lastItem _ _ item => exact List.forall_mem_singleton.2 item
  | item _ _ _ _ item items => exact List.forall_mem_cons.2 ⟨item, items⟩
  | lastMember _ _ _ value => exact List.forall_mem_singleton.2 value
  | member _ _ _ _ _ value members => exact List.forall_mem_cons.2 ⟨value, members⟩

/-- Every document that is read from a text has the property. -/
theorem BuiltUp.of_read
    {property : Value → Prop} (built : BuiltUp property) {text : String} {value : Value}
    (document : read text = .ok value) :
    property value := by
  have isText := read_eq_ok_iff.1 document
  generalize text.toList = characters at isText
  cases isText with
  | value _ written _ => exact written.all built

/-! ## Well-formed documents -/

/-- A row that is written from well-formed values is well-formed, whatever names are repeated. -/
theorem wellFormed_ofPairs
    {pairs : List (String × Value)} (each : ∀ pair ∈ pairs, pair.2.WellFormed) :
    (Row.ofPairs pairs).WellFormed := by
  have noFields : Row.WellFormed [] := .obj List.nodup_nil (List.forall_mem_nil _)
  exact noFields.setAll each

theorem builtUp_wellFormed : BuiltUp Value.WellFormed where
  scalar written := by
    cases written with
    | word member =>
        have wordsWellFormed : ∀ word ∈ words, word.2.WellFormed := by simp [words]
        exact wordsWellFormed _ member
    | number => exact .num _
  string := .str
  array := .arr
  object := wellFormed_ofPairs

/-- Every document that is read from a text is well-formed. -/
theorem wellFormed_of_read
    {text : String} {value : Value} (document : read text = .ok value) :
    value.WellFormed :=
  builtUp_wellFormed.of_read document

/-! ## Documents that can be written -/

theorem IsWhole.isDigit
    {whole : List Char} (written : IsWhole whole) :
    ∀ c ∈ whole, c.isDigit = true := by
  rcases written with rfl | ⟨⟨_, digits⟩, _⟩
  · exact List.forall_mem_singleton.2 rfl
  · exact digits

/-- A number that is read has a text: an integer with too many digits is no number. -/
theorem NumberParts.writable
    {sign whole fraction exponent : List Char}
    (parts : NumberParts sign whole fraction exponent) :
    (numberOf sign whole fraction exponent).Writable := by
  rw [numberOf]
  split
  · rename_i alone
    rw [Bool.and_eq_true, List.isEmpty_iff, List.isEmpty_iff] at alone
    have short := parts.short alone.1 alone.2
    have writable (negative : Bool) :=
      Decimal.writable_digitsValue parts.isWhole.isDigit short negative
    change Decimal.Writable _
    split
    · exact writable false
    · exact writable true
  · trivial

theorem builtUp_writable : BuiltUp Value.Writable where
  scalar written := by
    cases written with
    | word member =>
        have wordsWritable : ∀ word ∈ words, word.2.Writable := by simp [words, Number.Writable]
        exact wordsWritable _ member
    | number parts => exact .num parts.writable
  string := .str
  array := .arr
  object members := .obj fun field member => members field (Row.mem_of_mem_ofPairs member)

/-- Every document that is read from a text can be written. -/
theorem writable_of_read
    {text : String} {value : Value} (document : read text = .ok value) :
    value.Writable :=
  builtUp_writable.of_read document

end Json

end RowPlan
