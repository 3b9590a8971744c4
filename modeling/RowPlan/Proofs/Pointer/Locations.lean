import RowPlan.Proofs.Json.Documents
import RowPlan.Proofs.Number.Numeral
import RowPlan.Proofs.Pointer

/-!
# The locations of a document

A location is reached by branching into objects at their keys and into arrays at their indices. The
pointer whose segments are these keys as they are and these indices in decimal leads to the value
there, null like any other, whatever the keys are made of, so long as none is empty.

A pointer leads nowhere exactly if one of its segments is lacking in the value that the segments before
it lead to: a scalar and null lack every segment, an object those that are no key of it, and an array
those that are not read as the index of an item.
-/

namespace RowPlan

/-! ## Indices in decimal -/

namespace Decimal

theorem isAscii_of_isDigit {c : Char} (digit : c.isDigit = true) : Text.isAscii c = true := by
  rw [Text.isDigit_ascii_iff] at digit
  rw [Text.isAscii, decide_eq_true_iff]
  omega

theorem asciiDigit_of_isDigit {c : Char} (digit : c.isDigit = true) : asciiDigit c = c := by
  have bounds := (Text.isDigit_ascii_iff c).1 digit
  have zero : '0'.toNat = 48 := rfl
  have value : Text.decimalDigit? c = some (c.toNat - '0'.toNat) := by
    rw [Text.decimalDigit?, if_pos (isAscii_of_isDigit digit), if_pos digit]
  rw [asciiDigit, value]
  have same : '0'.toNat + (c.toNat - '0'.toNat) = c.toNat := by omega
  exact (congrArg Char.ofNat same).trans (Char.ofNat_toNat c)

/-- Decimal digits of an integer are digits of a numeral. -/
theorem digits_toDigits (n : Nat) : Digits (Nat.toDigits 10 n) := by
  intro c member
  have digit := Nat.isDigit_of_mem_toDigits (by decide) (by decide) member
  rw [Text.isDigit, if_pos (isAscii_of_isDigit digit), digit]

theorem digitsValue_toDigits (n : Nat) : digitsValue 0 (Nat.toDigits 10 n) = n := by
  calc
    digitsValue 0 (Nat.toDigits 10 n) = Nat.ofDigitChars 10 (Nat.toDigits 10 n) 0 := by
      rw [digitsValue, Nat.ofDigitChars_eq_foldl]
      simp only [Nat.mul_comm]
    _ = n := Nat.ofDigitChars_ten_toDigits

/-- A natural number in decimal is read back, unless it has too many digits. -/
theorem readInteger_toString {n : Nat} (short : (toString n).length ≤ digitLimit) :
    readInteger (toString n) = .value n := by
  have isDigit (c : Char) (member : c ∈ Nat.toDigits 10 n) : c.isDigit = true :=
    Nat.isDigit_of_mem_toDigits (by decide) (by decide) member
  have ascii : asciiDigits (Nat.toDigits 10 n) = Nat.toDigits 10 n :=
    calc
      asciiDigits (Nat.toDigits 10 n) = (Nat.toDigits 10 n).map id :=
        List.map_congr_left fun c member => asciiDigit_of_isDigit (isDigit c member)
      _ = Nat.toDigits 10 n := List.map_id _
  have whole : (Nat.toDigits 10 n).takeWhile Char.isDigit = Nat.toDigits 10 n :=
    takeWhile_eq_self_iff.2 isDigit
  rw [Nat.toString_eq_ofList_toDigits, String.length_ofList] at short
  rw [Nat.toString_eq_ofList_toDigits,
    readInteger_digits (digits_toDigits n) Nat.toDigits_ne_nil, ascii, whole]
  dsimp only
  rw [if_neg (Nat.not_lt.2 short), if_neg, digitsValue_toDigits]
  simp [Nat.toDigits_ne_nil]

end Decimal

/-! ## Locations -/

namespace Value

/-- A way into a value: to a member of an object, or to an item of an array. -/
inductive Branch where
  | member (key : String)
  | item (index : Nat)

namespace Branch

/-- The segment of a pointer for a branch: a key as it is, an index in decimal. -/
def segment : Branch → String
  | member key => key
  | item index => toString index

/-- A branch that a segment can name: at a key that is not empty, or at an index whose numeral is not too
long to be read. No list that a machine can hold has an index as long as that. -/
def Nameable : Branch → Prop
  | member key => key ≠ ""
  | item index => (toString index).length ≤ Decimal.digitLimit

instance (branch : Branch) : Decidable branch.Nameable :=
  match branch with
  | member key => inferInstanceAs (Decidable (key ≠ ""))
  | item index => inferInstanceAs (Decidable ((toString index).length ≤ Decimal.digitLimit))

theorem Nameable.segment_ne_empty
    {branch : Branch} (nameable : branch.Nameable) : branch.segment ≠ "" := by
  cases branch with
  | member key => exact nameable
  | item index =>
      rw [segment, Nat.toString_eq_repr]
      exact Nat.repr_ne_empty

end Branch

/-- Branches that lead from a document to a value in it. -/
inductive Located : Value → List Branch → Value → Prop where
  | here (value : Value) : Located value [] value
  | member {members : List (String × Value)} {key : String} {value target : Value}
      {branches : List Branch} :
      (key, value) ∈ members → Located value branches target →
      Located (.obj members) (.member key :: branches) target
  | item {items : List Value} {index : Nat} {value target : Value} {branches : List Branch} :
      items[index]? = some value → Located value branches target →
      Located (.arr items) (.item index :: branches) target

/-- A value has nothing under a segment. -/
def Lacks : Value → String → Prop
  | .obj members, segment => segment ∉ Row.keys members
  | .arr items, segment =>
    ∀ index : Int, Decimal.readInteger segment = .value index → index < 0 ∨ items.length ≤ index
  | _, _ => True

end Value

namespace Pointer

/-- Segments that say something come back from their pointer. -/
theorem split_join_of_ne_empty
    {segments : List String} (given : ∀ segment ∈ segments, segment ≠ "") :
    split (join segments) = segments := by
  rw [split_join, List.filter_eq_self]
  intro segment member
  simpa using given segment member

theorem item?_toString
    (items : List Value) {index : Nat} (short : (toString index).length ≤ Decimal.digitLimit) :
    item? items (toString index) = items[index]? := by
  rw [item?, Decimal.readInteger_toString short]

/-- Following the segments of a location finds the value there. -/
theorem follow_located
    {document target : Value} {branches : List Value.Branch} (wellFormed : document.WellFormed)
    (located : document.Located branches target)
    (nameable : ∀ branch ∈ branches, branch.Nameable) :
    follow document (branches.map Value.Branch.segment) = some target := by
  induction located with
  | here value => rw [List.map_nil, follow]
  | member isMember _ later =>
      rcases (Value.wellFormed_obj_iff _).1 wellFormed with ⟨distinct, each⟩
      rw [List.forall_mem_cons] at nameable
      rw [List.map_cons, follow, Value.Branch.segment, lookup_eq_some_of_mem distinct isMember]
      exact later (each _ isMember) nameable.2
  | item isItem _ later =>
      rw [List.forall_mem_cons] at nameable
      rw [List.map_cons, follow, Value.Branch.segment, item?_toString _ nameable.1, isItem]
      exact later ((Value.wellFormed_arr_iff _).1 wellFormed _ (List.mem_of_getElem? isItem))
        nameable.2

/-! ## Pointers that lead nowhere -/

theorem item?_eq_none_iff (items : List Value) (segment : String) :
    item? items segment = none ↔ (Value.arr items).Lacks segment := by
  rw [item?, Value.Lacks]
  cases Decimal.readInteger segment with
  | value index =>
      cases index with
      | ofNat index =>
          have notNegative : ¬ (index : Int) < 0 := by omega
          simp [notNegative]
      | negSucc fewer => simp
  | _ => simp

/-- What has nothing under a segment is not followed along it. -/
theorem follow_singleton_eq_none_iff (value : Value) (segment : String) :
    follow value [segment] = none ↔ value.Lacks segment := by
  have ends (next : Option Value) : (next.bind fun value => follow value []) = next := by
    cases next <;> simp [follow]
  cases value with
  | obj members =>
      rw [follow, ends]
      exact Row.find?_eq_none_iff
  | arr items => rw [follow, ends, item?_eq_none_iff]
  | _ => exact iff_of_true rfl trivial

theorem follow_append (value : Value) (before after : List String) :
    follow value (before ++ after) =
      (follow value before).bind fun middle => follow middle after := by
  induction before generalizing value with
  | nil => rw [List.nil_append, follow, Option.bind_some]
  | cons segment rest later =>
      cases value with
      | obj members => simp only [List.cons_append, follow, Option.bind_assoc, later]
      | arr items => simp only [List.cons_append, follow, Option.bind_assoc, later]
      | _ => rfl

/-- Segments are not followed to the end exactly if one of them is lacking where those before it
lead. -/
theorem follow_eq_none_iff (value : Value) (segments : List String) :
    follow value segments = none ↔
      ∃ before segment after middle,
        segments = before ++ segment :: after ∧ follow value before = some middle ∧
          middle.Lacks segment := by
  constructor
  · intro nowhere
    induction segments generalizing value with
    | nil =>
        rw [follow] at nowhere
        cases nowhere
    | cons segment rest later =>
        rw [← List.singleton_append, follow_append, Option.bind_eq_none_iff] at nowhere
        cases next : follow value [segment] with
        | none =>
            exact ⟨[], segment, rest, value, rfl, by rw [follow],
              (follow_singleton_eq_none_iff value segment).1 next⟩
        | some next' =>
            rcases later next' (nowhere next' next) with
              ⟨before, lacking, after, middle, rfl, reached, lacks⟩
            refine ⟨segment :: before, lacking, after, middle, rfl, ?_, lacks⟩
            rw [← List.singleton_append, follow_append, next]
            exact reached
  · rintro ⟨before, segment, after, middle, rfl, reached, lacks⟩
    rw [follow_append, reached, ← List.singleton_append, Option.bind_some, follow_append,
      (follow_singleton_eq_none_iff middle segment).2 lacks]
    rfl

/-- The pointer made of the branches to a location leads to the value there. -/
theorem resolve_located
    {document : Value} (wellFormed : document.WellFormed) {branches : List Value.Branch}
    {target : Value} (located : document.Located branches target)
    (nameable : ∀ branch ∈ branches, branch.Nameable) :
    resolve document (join (branches.map Value.Branch.segment)) = some target := by
  have named : ∀ segment ∈ branches.map Value.Branch.segment, segment ≠ "" := by
    intro segment member
    rcases List.mem_map.1 member with ⟨branch, isBranch, rfl⟩
    exact (nameable branch isBranch).segment_ne_empty
  rw [resolve, split_join_of_ne_empty named]
  exact follow_located wellFormed located nameable

/--
In a document that repeats no names, the pointer made of the branches to a location leads to the value
there. A pointer leads nowhere exactly if the pointer of some of its first segments leads to a value
that lacks the next one.
-/
theorem locations_addressed {document : Value} (wellFormed : document.WellFormed) :
    (∀ branches target, document.Located branches target →
        (∀ branch ∈ branches, branch.Nameable) →
        resolve document (join (branches.map Value.Branch.segment)) = some target) ∧
      ∀ path,
        resolve document path = none ↔
          ∃ before segment after value,
            split path = before ++ segment :: after ∧
              resolve document (join before) = some value ∧ value.Lacks segment := by
  constructor
  · exact fun branches target => resolve_located wellFormed
  · intro path
    rw [resolve, follow_eq_none_iff]
    refine exists_congr fun before => exists_congr fun segment => exists_congr fun after =>
      exists_congr fun middle => and_congr_right fun cut => ?_
    have given : ∀ first ∈ before, first ≠ "" := fun first member =>
      ne_empty_of_mem_split (cut ▸ List.mem_append_left _ member)
    rw [resolve, split_join_of_ne_empty given]

/-- A null at a key with a slash and a tilde, in an array, and under a key that is a numeral; and an index
that is out of range. -/
theorem locations_addressed_escaped :
    let document := Value.obj [("a/b~", .arr [.bool true, .obj [("7", .null)]])]
    let branches : List Value.Branch := [.member "a/b~", .item 1, .member "7"]
    document.WellFormed ∧ document.Located branches .null ∧
      (∀ branch ∈ branches, branch.Nameable) ∧
        resolve document (join (branches.map Value.Branch.segment)) = some .null ∧
          resolve document "/a~1b~0/-1/7" = none := by
  intro document branches
  have wellFormed : document.WellFormed := by simp [document]
  have located : document.Located branches .null :=
    .member List.mem_cons_self (.item rfl (.member List.mem_cons_self (.here .null)))
  have nameable : ∀ branch ∈ branches, branch.Nameable := by decide
  have addressed := locations_addressed wellFormed
  refine ⟨wellFormed, located, nameable, addressed.1 branches .null located nameable,
    (addressed.2 _).2 ⟨["a/b~"], "-1", ["7"], _, by decide +kernel, by rfl, ?_⟩⟩
  intro index read
  have negative : Decimal.readInteger "-1" = .value (-1) := by rfl
  rw [negative] at read
  cases read
  decide

/-- In a document that is read from a text every location is addressed, and what is there has a text
again. -/
theorem resolve_located_of_read
    {text : String} {document : Value} (isRead : Json.read text = .ok document)
    {branches : List Value.Branch} {target : Value} (located : document.Located branches target)
    (nameable : ∀ branch ∈ branches, branch.Nameable) :
    resolve document (join (branches.map Value.Branch.segment)) = some target ∧
      Outcome.Succeeds (Json.write target) := by
  have found := resolve_located (Json.wellFormed_of_read isRead) located nameable
  have writable := Value.hereditary_writable.of_resolve (Json.writable_of_read isRead) found
  exact ⟨found, (Json.succeeds_write_iff target).2 writable⟩

end Pointer

end RowPlan
