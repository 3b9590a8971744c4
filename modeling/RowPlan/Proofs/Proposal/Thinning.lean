import RowPlan.Proofs.Json.Recognition
import RowPlan.Proofs.Proposal.Marks
import RowPlan.Proofs.Text.LetterCase
import RowPlan.Proofs.Value.Row

/-!
# JSON texts without marks

Ticks stand only inside of the strings of a JSON text, so it is still a JSON text when marks have been
removed from it, and writes a value of the same kind. The strings of the value lose the ticks that the text
loses. Where an object repeats a name, some of the ticks are in no value; as long as none does, the value
loses as many ticks as the text at least.
-/

namespace RowPlan

/-! ## Ticks in values -/

namespace Value

open Proposal (tick)

mutual

/-- The number of ticks in the strings and the names of a value. -/
def ticks : Value → Nat
  | .str s => s.toList.count tick
  | .arr items => itemTicks items
  | .obj members => memberTicks members
  | _ => 0

/-- The number of ticks in some items. -/
def itemTicks : List Value → Nat
  | [] => 0
  | item :: rest => ticks item + itemTicks rest

/-- The number of ticks in some members. -/
def memberTicks : List (String × Value) → Nat
  | [] => 0
  | (name, value) :: rest => name.toList.count tick + ticks value + memberTicks rest

end

theorem memberTicks_set_le (row : Row) (name : String) (value : Value) :
    memberTicks (row.set name value) ≤ memberTicks row + (name.toList.count tick + ticks value) := by
  induction row with
  | nil => simp [Row.set, memberTicks]
  | cons field rest later =>
      rcases field with ⟨other, old⟩
      rw [Row.set]
      split
      · simp only [memberTicks]
        omega
      · simp only [memberTicks]
        omega

/-- An object has no more ticks than the members that it is made of. -/
theorem memberTicks_ofPairs_le (pairs : List (String × Value)) :
    memberTicks (Row.ofPairs pairs) ≤ memberTicks pairs := by
  have from_ (row : Row) : memberTicks (Row.setAll row pairs) ≤ memberTicks row + memberTicks pairs := by
    induction pairs generalizing row with
    | nil => exact Nat.le_refl _
    | cons pair rest later =>
        rcases pair with ⟨name, value⟩
        have first := memberTicks_set_le row name value
        have others := later (row.set name value)
        show memberTicks (Row.setAll (row.set name value) rest) ≤ _
        rw [memberTicks]
        omega
  have fromNothing := from_ []
  rwa [memberTicks, Nat.zero_add] at fromNothing

theorem memberTicks_ofPairs_of_nodup
    {pairs : List (String × Value)} (distinct : (pairs.map Prod.fst).Nodup) :
    memberTicks (Row.ofPairs pairs) = memberTicks pairs := by
  have same : Row.setAll [] pairs = [] ++ pairs := Row.setAll_of_nodup distinct
  exact congrArg memberTicks same

end Value

namespace Proposal

open Json

/-- The ticks of a part of a text. -/
def partTicks : Part → Nat
  | .value value => value.ticks
  | .items items => Value.itemTicks items
  | .members members => Value.memberTicks members

theorem ofNat_eq_tick_iff (code : Nat) : Char.ofNat code = tick ↔ code = tick.toNat := by
  constructor
  · intro isTick
    rcases Text.toNat_ofNat_cases code with same | absent
    · rw [← same, isTick]
    · rw [absent] at isTick
      exact absurd isTick (by decide)
  · rintro rfl
    decide

theorem replaceSurrogate_eq_tick_iff (code : Nat) :
    joinSurrogates.replaceSurrogate code = tick ↔ code = tick.toNat := by
  rw [joinSurrogates.replaceSurrogate]
  split
  · rename_i surrogate
    refine iff_of_false (by decide) ?_
    rintro rfl
    exact absurd surrogate (by decide)
  · exact ofNat_eq_tick_iff code

theorem count_replaceSurrogate (code : Nat) (rest : List Char) (codes : List Nat)
    (later : rest.count tick = codes.count tick.toNat) :
    (joinSurrogates.replaceSurrogate code :: rest).count tick = (code :: codes).count tick.toNat := by
  simp only [List.count_cons, later, beq_iff_eq, replaceSurrogate_eq_tick_iff]

/-- A text has as many ticks as there are codes of ticks. -/
theorem count_textOf (codes : List Nat) : (textOf codes).toList.count tick = codes.count tick.toNat := by
  rw [textOf, String.toList_ofList]
  fun_induction joinSurrogates codes with
  | case1 => rfl
  | case2 high low rest pair later =>
      have ticksCode : tick.toNat = 96 := by decide
      have notHigh : high ≠ tick.toNat := by omega
      have notLow : low ≠ tick.toNat := by omega
      have notJoined : Char.ofNat (0x10000 + (high - 0xD800) * 0x400 + (low - 0xDC00)) ≠ tick := by
        rw [Ne, ofNat_eq_tick_iff]
        omega
      rw [List.count_cons_of_ne notJoined, List.count_cons_of_ne notHigh, List.count_cons_of_ne notLow,
        later]
  | case3 high low rest notPair later => exact count_replaceSurrogate high _ (low :: rest) later
  | case4 code => exact count_replaceSurrogate code [] [] rfl

/-! ## Where there are no ticks -/

theorem tick_not_mem_of_spaces {gap : List Char} (spaces : Spaces gap) : tick ∉ gap :=
  fun member => absurd (spaces tick member) (by decide)

theorem tick_not_mem_of_digits {digits : List Char} (run : Digits digits) : tick ∉ digits :=
  fun member => absurd (run.2 tick member) (by decide)

theorem tick_not_mem_of_number
    {sign whole fraction exponent : List Char} (parts : NumberParts sign whole fraction exponent) :
    tick ∉ sign ++ (whole ++ (fraction ++ exponent)) := by
  have noneInSign : tick ∉ sign := by
    rcases parts.isSign with rfl | rfl <;> decide
  have noneInWhole : tick ∉ whole := by
    rcases parts.isWhole with rfl | ⟨digits, _⟩
    · decide
    · exact tick_not_mem_of_digits digits
  have noneInFraction : tick ∉ fraction := by
    cases parts.isFraction with
    | none => nofun
    | digits run =>
        rw [List.mem_cons, not_or]
        exact ⟨by decide, tick_not_mem_of_digits run⟩
  have noneInExponent : tick ∉ exponent := by
    cases parts.isExponent with
    | none => nofun
    | digits isMark isSign run =>
        rw [List.mem_cons, List.mem_append, not_or, not_or]
        refine ⟨?_, ?_, tick_not_mem_of_digits run⟩
        · rcases isMark with rfl | rfl <;> decide
        · rcases isSign with rfl | rfl | rfl <;> decide
  simp only [List.mem_append, not_or]
  exact ⟨noneInSign, noneInWhole, noneInFraction, noneInExponent⟩

theorem tick_not_mem_of_scalar {text : List Char} {value : Value} (written : ScalarText text value) :
    tick ∉ text := by
  cases written with
  | word member =>
      simp only [words, List.mem_cons, List.not_mem_nil, or_false, Prod.mk.injEq] at member
      rcases member with ⟨rfl, rfl⟩ | ⟨rfl, rfl⟩ | ⟨rfl, rfl⟩ | ⟨rfl, rfl⟩ | ⟨rfl, rfl⟩ | ⟨rfl, rfl⟩
      all_goals decide
  | number parts => exact tick_not_mem_of_number parts

theorem tick_not_mem_brackets
    {opening closing : Char} (noTick : tick ≠ opening ∧ tick ≠ closing) {gap : List Char}
    (spaces : Spaces gap) :
    tick ∉ opening :: (gap ++ [closing]) := by
  simp only [List.mem_cons, List.mem_append, List.not_mem_nil, or_false, not_or]
  exact ⟨noTick.1, tick_not_mem_of_spaces spaces, noTick.2⟩

/-! ## Texts without marks -/

theorem ThinsText.append
    {thin : List Char → List Char} {first second thinned thinned' : List Char}
    (firstThins : ThinsText thin first thinned) (secondThins : ThinsText thin second thinned') :
    ThinsText thin (first ++ second) (thinned ++ thinned') := by
  intro rest
  rw [List.append_assoc, firstThins, secondThins, List.append_assoc]

section

variable {thin : List Char → List Char} (thins : Thins thin)

include thins

theorem thinsText_spaces {gap : List Char} (spaces : Spaces gap) : ThinsText thin gap gap :=
  thins.append (tick_not_mem_of_spaces spaces)

theorem thinsText_cons
    {c : Char} (noTick : tick ≠ c) {text thinned : List Char} (textThins : ThinsText thin text thinned) :
    ThinsText thin (c :: text) (c :: thinned) := by
  have first : ThinsText thin [c] [c] :=
    thins.append fun member => noTick (List.mem_singleton.1 member)
  exact first.append textThins

theorem thinsText_string (body : List Char) :
    ThinsText thin ('"' :: (body ++ ['"'])) ('"' :: (thin body ++ ['"'])) := by
  intro rest
  have opened : thin ('"' :: (body ++ '"' :: rest)) = thin [] ++ '"' :: thin (body ++ '"' :: rest) :=
    thins.boundary (.inr rfl) [] _
  simp only [List.cons_append, List.append_assoc, List.nil_append]
  rw [opened, thins.nil, thins.boundary (.inr rfl)]
  rfl

/-- A name is thinned to one that has lost as many ticks as its text. -/
theorem thinsText_name
    {opening : List Char} {name : String} (written : NameText opening name) :
    ∃ opening' name', ThinsText thin opening opening' ∧ NameText opening' name' ∧
      name'.toList.count tick + opening.count tick = name.toList.count tick + opening'.count tick := by
  cases written with
  | @name body codes gap gap' written spaces spaces' =>
      rcases thins.body written with ⟨codes', written', ticks⟩
      refine ⟨_, _, ?_, .name written' spaces spaces', ?_⟩
      · have afterQuote : ThinsText thin (gap ++ ':' :: gap') (gap ++ ':' :: gap') :=
          (thinsText_spaces thins spaces).append
            (thinsText_cons thins (by decide) (thinsText_spaces thins spaces'))
        simpa using (thinsText_string thins body).append afterQuote
      · simp only [count_textOf, List.count_append, List.count_cons]
        omega

end

/-! ## Parts without marks -/

/-- A text is thinned to one that writes another part. As long as names are not repeated, the part loses at
least as many ticks as its text. -/
structure Thinned (thin : List Char → List Char) (names : List String → Prop) (text : List Char)
    (part : Part) (thinned : List Char) (part' : Part) : Prop where
  alone : ThinsText thin text thinned
  written : Writes anyNames thinned part'
  ticks : (∀ list, names list → list.Nodup) →
    partTicks part' + text.count tick ≤ partTicks part + thinned.count tick

/-- A text is thinned to one that writes a part of the same kind. -/
def ThinsPart (thin : List Char → List Char) (names : List String → Prop) (text : List Char) :
    Part → Prop
  | .value value =>
    ∃ thinned value', value'.kind = value.kind ∧ Thinned thin names text (.value value) thinned (.value value')
  | .items items => ∃ thinned items', Thinned thin names text (.items items) thinned (.items items')
  | .members members =>
    ∃ thinned members', Thinned thin names text (.members members) thinned (.members members')

section

variable {thin : List Char → List Char} (thins : Thins thin) {names : List String → Prop}

include thins

/-- A value without ticks in its text stays. -/
theorem thinsPart_of_not_mem
    {text : List Char} {value : Value} (noTick : tick ∉ text)
    (written : Writes anyNames text (.value value)) :
    ThinsPart thin names text (.value value) :=
  ⟨text, value, rfl, thins.append noTick, written, fun _ => Nat.le_refl _⟩

theorem thinsPart_string {body : List Char} {codes : List Nat} (written : StringBody body codes) :
    ThinsPart thin names ('"' :: (body ++ ['"'])) (.value (.str (textOf codes))) := by
  rcases thins.body written with ⟨codes', written', ticks⟩
  refine ⟨_, .str (textOf codes'), rfl, thinsText_string thins body, .string written', fun _ => ?_⟩
  simp only [partTicks, Value.ticks, count_textOf, List.count_append, List.count_cons]
  omega

theorem thinsPart_array
    {gap text : List Char} {items : List Value} (spaces : Spaces gap)
    (inside : ThinsPart thin names text (.items items)) :
    ThinsPart thin names ('[' :: (gap ++ text)) (.value (.arr items)) := by
  rcases inside with ⟨thinned, items', ⟨alone, written, ticks⟩⟩
  refine ⟨'[' :: (gap ++ thinned), .arr items', rfl, ?_, .array spaces written, fun distinct => ?_⟩
  · exact thinsText_cons thins (by decide) ((thinsText_spaces thins spaces).append alone)
  · have fewer := ticks distinct
    simp only [partTicks, Value.ticks, List.count_append, List.count_cons] at fewer ⊢
    omega

theorem thinsPart_object
    {gap text : List Char} {members : List (String × Value)} (spaces : Spaces gap)
    (inside : ThinsPart thin names text (.members members)) (named : names (members.map Prod.fst)) :
    ThinsPart thin names ('\x7b' :: (gap ++ text)) (.value (.obj (Row.ofPairs members))) := by
  rcases inside with ⟨thinned, members', ⟨alone, written, ticks⟩⟩
  refine ⟨'\x7b' :: (gap ++ thinned), .obj (Row.ofPairs members'), rfl, ?_,
    .object spaces written trivial, fun distinct => ?_⟩
  · exact thinsText_cons thins (by decide) ((thinsText_spaces thins spaces).append alone)
  · have fewer := ticks distinct
    have kept := Value.memberTicks_ofPairs_of_nodup (distinct _ named)
    have atMost := Value.memberTicks_ofPairs_le members'
    simp only [partTicks, Value.ticks, List.count_append, List.count_cons] at fewer ⊢
    omega

theorem thinsPart_lastItem
    {text gap : List Char} {item : Value} (first : ThinsPart thin names text (.value item))
    (spaces : Spaces gap) :
    ThinsPart thin names (text ++ (gap ++ [']'])) (.items [item]) := by
  rcases first with ⟨thinned, item', _, ⟨alone, written, ticks⟩⟩
  refine ⟨_, [item'], ?_, .lastItem written spaces, fun distinct => ?_⟩
  · have bracket : ThinsText thin [']'] [']'] := thins.append (by decide)
    exact alone.append ((thinsText_spaces thins spaces).append bracket)
  · have fewer := ticks distinct
    simp only [partTicks, Value.itemTicks, List.count_append] at fewer ⊢
    omega

theorem thinsPart_item
    {text gap gap' rest : List Char} {item : Value} {items : List Value}
    (first : ThinsPart thin names text (.value item)) (spaces : Spaces gap) (spaces' : Spaces gap')
    (others : ThinsPart thin names rest (.items items)) :
    ThinsPart thin names (text ++ (gap ++ ',' :: (gap' ++ rest))) (.items (item :: items)) := by
  rcases first with ⟨thinned, item', _, ⟨alone, written, ticks⟩⟩
  rcases others with ⟨thinned', items', ⟨alone', written', ticks'⟩⟩
  refine ⟨_, item' :: items', ?_, .item written spaces spaces' written', fun distinct => ?_⟩
  · have comma := thinsText_cons thins (c := ',') (by decide) ((thinsText_spaces thins spaces').append alone')
    exact alone.append ((thinsText_spaces thins spaces).append comma)
  · have fewer := ticks distinct
    have fewer' := ticks' distinct
    simp only [partTicks, Value.itemTicks, List.count_append, List.count_cons] at fewer fewer' ⊢
    omega

theorem thinsPart_lastMember
    {opening text gap : List Char} {name : String} {value : Value} (named : NameText opening name)
    (first : ThinsPart thin names text (.value value)) (spaces : Spaces gap) :
    ThinsPart thin names (opening ++ (text ++ (gap ++ ['\x7d']))) (.members [(name, value)]) := by
  rcases thinsText_name thins named with ⟨opening', name', openingAlone, named', nameTicks⟩
  rcases first with ⟨thinned, value', _, ⟨alone, written, ticks⟩⟩
  refine ⟨_, [(name', value')], ?_, .lastMember named' written spaces, fun distinct => ?_⟩
  · have brace : ThinsText thin ['\x7d'] ['\x7d'] := thins.append (by decide)
    exact openingAlone.append (alone.append ((thinsText_spaces thins spaces).append brace))
  · have fewer := ticks distinct
    simp only [partTicks, Value.memberTicks, List.count_append] at fewer ⊢
    omega

theorem thinsPart_member
    {opening text gap gap' rest : List Char} {name : String} {value : Value}
    {members : List (String × Value)} (named : NameText opening name)
    (first : ThinsPart thin names text (.value value)) (spaces : Spaces gap) (spaces' : Spaces gap')
    (others : ThinsPart thin names rest (.members members)) :
    ThinsPart thin names (opening ++ (text ++ (gap ++ ',' :: (gap' ++ rest))))
      (.members ((name, value) :: members)) := by
  rcases thinsText_name thins named with ⟨opening', name', openingAlone, named', nameTicks⟩
  rcases first with ⟨thinned, value', _, ⟨alone, written, ticks⟩⟩
  rcases others with ⟨thinned', members', ⟨alone', written', ticks'⟩⟩
  refine ⟨_, (name', value') :: members', ?_, .member named' written spaces spaces' written',
    fun distinct => ?_⟩
  · have comma := thinsText_cons thins (c := ',') (by decide) ((thinsText_spaces thins spaces').append alone')
    exact openingAlone.append (alone.append ((thinsText_spaces thins spaces).append comma))
  · have fewer := ticks distinct
    have fewer' := ticks' distinct
    simp only [partTicks, Value.memberTicks, List.count_append, List.count_cons] at fewer fewer' ⊢
    omega

/-- Whatever is written is thinned to something of its kind. -/
theorem thinsPart_of_writes
    {text : List Char} {part : Part} (written : Writes names text part) : ThinsPart thin names text part := by
  induction written with
  | scalar written =>
      exact thinsPart_of_not_mem thins (tick_not_mem_of_scalar written) (.scalar written)
  | string written => exact thinsPart_string thins written
  | emptyArray spaces =>
      exact thinsPart_of_not_mem thins (tick_not_mem_brackets (by decide) spaces) (.emptyArray spaces)
  | array spaces _ inside => exact thinsPart_array thins spaces inside
  | emptyObject spaces =>
      exact thinsPart_of_not_mem thins (tick_not_mem_brackets (by decide) spaces) (.emptyObject spaces)
  | object spaces _ named inside => exact thinsPart_object thins spaces inside named
  | lastItem _ spaces first => exact thinsPart_lastItem thins first spaces
  | item _ spaces spaces' _ first others => exact thinsPart_item thins first spaces spaces' others
  | lastMember named _ spaces first => exact thinsPart_lastMember thins named first spaces
  | member named _ spaces spaces' _ first others =>
      exact thinsPart_member thins named first spaces spaces' others

/-- A JSON text is thinned to a JSON text of the same kind. -/
theorem isText_thin
    {text : List Char} {value : Value} (isText : IsText names text value) :
    ∃ value', IsText anyNames (thin text) value' ∧ value'.kind = value.kind ∧
      ((∀ list, names list → list.Nodup) →
        value'.ticks + text.count tick ≤ value.ticks + (thin text).count tick) := by
  cases isText with
  | @value before body after value spaces written spaces' =>
      rcases thinsPart_of_writes thins written with ⟨thinned, value', sameKind, ⟨alone, written', ticks⟩⟩
      have whole :
          ThinsText thin (before ++ (body ++ after)) (before ++ (thinned ++ after)) :=
        (thinsText_spaces thins spaces).append (alone.append (thinsText_spaces thins spaces'))
      have same := whole []
      rw [List.append_nil, thins.nil, List.append_nil] at same
      rw [same]
      refine ⟨value', .value spaces written' spaces', sameKind, fun distinct => ?_⟩
      have fewer := ticks distinct
      simp only [partTicks, List.count_append] at fewer ⊢
      omega

end

end Proposal

end RowPlan
