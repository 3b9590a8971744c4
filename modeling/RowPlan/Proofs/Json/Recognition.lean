import RowPlan.Proofs.Json.Scalars

/-!
# The reader of JSON and its grammar

The reader takes exactly the JSON texts, each with the value that it writes. Whatever a reader with some
fuel takes is written by the grammar: every level relies on those with less fuel. Whatever is written is
taken with twice as much fuel as it has characters, since every second call takes a character.
-/

namespace RowPlan.Json

/-! ## What is read is written -/

/-- Whatever the reader takes is a text that writes what it reads. -/
def Sound {α : Type} (part : α → Part) (reader : Cursor → Except Problem (α × Cursor)) : Prop :=
  ∀ ⦃offset text result after⦄, reader ⟨offset, text⟩ = .ok (result, after) →
    ∃ taken, Writes anyNames taken (part result) ∧ text = taken ++ after.rest

/-- The readers with some fuel are sound. -/
structure SoundWith (fuel : Nat) : Prop where
  value : Sound .value (readValue fuel)
  items : Sound .items (readItems fuel)
  members : Sound .members (readMembers fuel)

theorem readValue_sound {fuel : Nat} (sound : SoundWith fuel) : Sound .value (readValue (fuel + 1)) := by
  intro offset text value after read
  rw [readValue] at read
  split at read
  · rename_i rest starts
    cases starts
    rcases Outcome.map_eq_ok_iff.1 read with ⟨⟨string, end_⟩, stringRead, same⟩
    cases same
    rcases readString_sound stringRead with ⟨body, codes, written, rfl, rfl⟩
    exact ⟨_, .string written, by simp⟩
  · rename_i rest starts
    cases starts
    rcases skipSpaces_sound (offset + 1) rest with ⟨gap, inside, next, spaces, rfl, skipped⟩
    simp only [Cursor.skip, List.drop_one, List.tail_cons, skipped] at read
    split at read
    · cases read
      exact ⟨_, .emptyArray spaces, by simp⟩
    · rcases Outcome.map_eq_ok_iff.1 read with ⟨⟨items, end_⟩, itemsRead, same⟩
      cases same
      rcases sound.items itemsRead with ⟨taken, written, rfl⟩
      exact ⟨_, .array spaces written, by simp⟩
  · rename_i rest starts
    cases starts
    rcases skipSpaces_sound (offset + 1) rest with ⟨gap, inside, next, spaces, rfl, skipped⟩
    simp only [Cursor.skip, List.drop_one, List.tail_cons, skipped] at read
    split at read
    · cases read
      exact ⟨_, .emptyObject spaces, by simp⟩
    · rcases Outcome.map_eq_ok_iff.1 read with ⟨⟨members, end_⟩, membersRead, same⟩
      cases same
      rcases sound.members membersRead with ⟨taken, written, rfl⟩
      exact ⟨_, .object spaces written trivial, by simp⟩
  · rcases readScalar_sound read with ⟨taken, written, rfl⟩
    exact ⟨taken, .scalar written, rfl⟩

theorem readItems_sound {fuel : Nat} (sound : SoundWith fuel) : Sound .items (readItems (fuel + 1)) := by
  intro offset text items after read
  rw [readItems] at read
  rcases Outcome.bind_eq_ok_iff.1 read with ⟨⟨item, offset', rest⟩, itemRead, later⟩
  rcases sound.value itemRead with ⟨taken, written, rfl⟩
  rcases skipSpaces_sound offset' rest with ⟨gap, next, rest, spaces, rfl, skipped⟩
  simp only [skipped, Cursor.skip, List.drop_one] at later
  split at later
  · cases later
    exact ⟨_, .lastItem written spaces, by simp⟩
  · rename_i others
    rw [List.tail_cons] at later
    rcases skipSpaces_sound (next + 1) others with ⟨gap', next', rest, spaces', rfl, skipped'⟩
    simp only [skipped'] at later
    rcases Outcome.bind_eq_ok_iff.1 later with ⟨⟨items, end_⟩, itemsRead, same⟩
    cases same
    rcases sound.items itemsRead with ⟨taken', written', rfl⟩
    exact ⟨_, .item written spaces spaces' written', by simp⟩
  · cases later

theorem readMembers_sound {fuel : Nat} (sound : SoundWith fuel) :
    Sound .members (readMembers (fuel + 1)) := by
  intro offset text members after read
  rw [readMembers] at read
  split at read
  · rename_i rest starts
    cases starts
    rcases Outcome.bind_eq_ok_iff.1 read with ⟨⟨name, offset', rest⟩, nameRead, later⟩
    rcases readString_sound nameRead with ⟨body, codes, writtenName, rfl, rfl⟩
    rcases skipSpaces_sound offset' rest with ⟨gap, next, rest, spaces, rfl, skipped⟩
    simp only [skipped, Cursor.skip, List.drop_one] at later
    split at later
    · rename_i others
      rw [List.tail_cons] at later
      rcases skipSpaces_sound (next + 1) others with ⟨gap', next', rest, spaces', rfl, skipped'⟩
      have opening : NameText ('"' :: (body ++ '"' :: (gap ++ ':' :: gap'))) (textOf codes) :=
        .name writtenName spaces spaces'
      rw [skipped'] at later
      rcases Outcome.bind_eq_ok_iff.1 later with ⟨⟨value, offset', rest⟩, valueRead, separated⟩
      rcases sound.value valueRead with ⟨taken, written, rfl⟩
      rcases skipSpaces_sound offset' rest with ⟨gapAfter, next, rest, spacesAfter, rfl, skipped⟩
      simp only [skipped] at separated
      split at separated
      · cases separated
        exact ⟨_, .lastMember opening written spacesAfter, by simp⟩
      · rename_i others _
        rw [List.tail_cons] at separated
        rcases skipSpaces_sound (next + 1) others with ⟨gap', next', rest, spaces', rfl, skipped'⟩
        simp only [skipped'] at separated
        rcases Outcome.bind_eq_ok_iff.1 separated with ⟨⟨members, end_⟩, membersRead, same⟩
        cases same
        rcases sound.members membersRead with ⟨taken', written', rfl⟩
        exact ⟨_, .member opening written spacesAfter spaces' written', by simp⟩
      · cases separated
    · cases later
  · cases read

theorem soundWith (fuel : Nat) : SoundWith fuel := by
  induction fuel with
  | zero => exact ⟨nofun, nofun, nofun⟩
  | succ fuel sound => exact ⟨readValue_sound sound, readItems_sound sound, readMembers_sound sound⟩

/-! ## What is written is read -/

/-- A reader with enough fuel takes a text as what it writes. After a value something has to stop it. -/
def IsTaken (text : List Char) : Part → Prop
  | .value value =>
    ∀ fuel offset rest, 2 * text.length ≤ fuel → Stops rest →
      ∃ after, readValue fuel ⟨offset, text ++ rest⟩ = .ok (value, ⟨after, rest⟩)
  | .items items =>
    ∀ fuel offset rest, 2 * text.length ≤ fuel →
      ∃ after, readItems fuel ⟨offset, text ++ rest⟩ = .ok (items, ⟨after, rest⟩)
  | .members members =>
    ∀ fuel offset rest, 2 * text.length ≤ fuel →
      ∃ after, readMembers fuel ⟨offset, text ++ rest⟩ = .ok (members, ⟨after, rest⟩)

theorem not_opensValue_of_stopping {c : Char} (stopper : c ∈ stopping) : ¬ OpensValue c := by
  have none : stopping.any (fun c => decide (OpensValue c)) = false := by decide
  exact fun opens => List.any_eq_false.1 none c stopper (decide_eq_true opens)

/-- A text goes on with the start of a value where something is written. -/
theorem Writes.opensValue
    {names : List String → Prop} {text : List Char} {part : Part} (written : Writes names text part)
    {rest : List Char} {c : Char} (atHead : (text ++ rest).head? = some c) :
    OpensValue c := by
  rcases written.opening with ⟨first, later, rfl, opens⟩
  exact Option.some.inj atHead ▸ opens

theorem Writes.avoids_space
    {names : List String → Prop} {text : List Char} {part : Part} (written : Writes names text part)
    (rest : List Char) :
    Avoids (text ++ rest) isSpace := by
  intro c atHead
  refine eq_false_of_ne_true fun space => ?_
  exact not_opensValue_of_stopping (mem_stopping_of_isSpace space) (written.opensValue atHead)

theorem avoids_space_cons {c : Char} (notSpace : isSpace c = false) (rest : List Char) :
    Avoids (c :: rest) isSpace :=
  fun _ atHead => Option.some.inj atHead ▸ notSpace

theorem isTaken_scalar {text : List Char} {value : Value} (written : ScalarText text value) :
    IsTaken text (.value value) := by
  rcases written.opening with ⟨c, later, rfl, opens⟩
  intro fuel offset rest enough stops
  cases fuel with
  | zero => simp at enough
  | succ fuel =>
      rw [readValue]
      split
      case h_4 => exact readScalar_append written stops offset
      all_goals
        rename_i starts
        cases starts
        exact absurd opens (by decide)

theorem isTaken_string {body : List Char} {codes : List Nat} (written : StringBody body codes) :
    IsTaken ('"' :: (body ++ ['"'])) (.value (.str (textOf codes))) := by
  intro fuel offset rest enough _
  cases fuel with
  | zero => simp at enough
  | succ fuel =>
      rcases readString_append written rest offset with ⟨after, read⟩
      refine ⟨after, ?_⟩
      simp only [List.cons_append, List.append_assoc, List.nil_append, readValue, read]
      rfl

theorem isTaken_emptyArray {gap : List Char} (spaces : Spaces gap) :
    IsTaken ('[' :: (gap ++ [']'])) (.value (.arr [])) := by
  intro fuel offset rest enough _
  cases fuel with
  | zero => simp at enough
  | succ fuel =>
      have bracket : Avoids (']' :: rest) isSpace := avoids_space_cons (by decide) rest
      simp only [List.cons_append, List.append_assoc, List.nil_append, readValue, Cursor.skip,
        List.drop_one, List.tail_cons, skipSpaces_append spaces bracket]
      exact ⟨_, rfl⟩

theorem isTaken_array
    {names : List String → Prop} {gap text : List Char} {items : List Value} (spaces : Spaces gap)
    (written : Writes names text (.items items)) (taken : IsTaken text (.items items)) :
    IsTaken ('[' :: (gap ++ text)) (.value (.arr items)) := by
  intro fuel offset rest enough _
  cases fuel with
  | zero => simp at enough
  | succ fuel =>
      have enoughInside : 2 * text.length ≤ fuel := by
        simp only [List.length_cons, List.length_append] at enough
        omega
      rcases taken fuel (offset + 1 + gap.length) rest enoughInside with ⟨after, read⟩
      refine ⟨after, ?_⟩
      simp only [List.cons_append, List.append_assoc, readValue, Cursor.skip, List.drop_one,
        List.tail_cons, skipSpaces_append spaces (written.avoids_space rest), read]
      split
      · rename_i starts
        exact absurd (written.opensValue (congrArg List.head? starts)) (by decide)
      · rfl

theorem isTaken_emptyObject {gap : List Char} (spaces : Spaces gap) :
    IsTaken ('\x7b' :: (gap ++ ['\x7d'])) (.value (.obj [])) := by
  intro fuel offset rest enough _
  cases fuel with
  | zero => simp at enough
  | succ fuel =>
      have brace : Avoids ('\x7d' :: rest) isSpace := avoids_space_cons (by decide) rest
      simp only [List.cons_append, List.append_assoc, List.nil_append, readValue, Cursor.skip,
        List.drop_one, List.tail_cons, skipSpaces_append spaces brace]
      exact ⟨_, rfl⟩

theorem isTaken_object
    {names : List String → Prop} {gap text : List Char} {members : List (String × Value)}
    (spaces : Spaces gap) (written : Writes names text (.members members))
    (taken : IsTaken text (.members members)) :
    IsTaken ('\x7b' :: (gap ++ text)) (.value (.obj (Row.ofPairs members))) := by
  intro fuel offset rest enough _
  cases fuel with
  | zero => simp at enough
  | succ fuel =>
      have enoughInside : 2 * text.length ≤ fuel := by
        simp only [List.length_cons, List.length_append] at enough
        omega
      rcases taken fuel (offset + 1 + gap.length) rest enoughInside with ⟨after, read⟩
      refine ⟨after, ?_⟩
      simp only [List.cons_append, List.append_assoc, readValue, Cursor.skip, List.drop_one,
        List.tail_cons, skipSpaces_append spaces (written.avoids_space rest), read]
      split
      · rename_i starts
        exact absurd (written.opensValue (congrArg List.head? starts)) (by decide)
      · rfl

theorem isTaken_lastItem
    {text gap : List Char} {item : Value} (taken : IsTaken text (.value item)) (spaces : Spaces gap) :
    IsTaken (text ++ (gap ++ [']'])) (.items [item]) := by
  intro fuel offset rest enough
  cases fuel with
  | zero => simp at enough
  | succ fuel =>
      have enoughItem : 2 * text.length ≤ fuel := by
        simp only [List.length_append, List.length_singleton] at enough
        omega
      have bracket : Avoids (']' :: rest) isSpace := avoids_space_cons (by decide) rest
      have stops : Stops (gap ++ ']' :: rest) := spaces.stops_append (by decide) rest
      rcases taken fuel offset _ enoughItem stops with ⟨after, read⟩
      refine ⟨after + gap.length + 1, ?_⟩
      rw [readItems]
      refine Outcome.bind_eq_ok_iff.2 ⟨_, by simpa using read, ?_⟩
      simp only [skipSpaces_append spaces bracket]
      rfl

theorem isTaken_item
    {names : List String → Prop} {text gap gap' rest : List Char} {item : Value} {items : List Value}
    (taken : IsTaken text (.value item)) (spaces : Spaces gap) (spaces' : Spaces gap')
    (written : Writes names rest (.items items)) (takenRest : IsTaken rest (.items items)) :
    IsTaken (text ++ (gap ++ ',' :: (gap' ++ rest))) (.items (item :: items)) := by
  intro fuel offset later enough
  cases fuel with
  | zero => simp at enough
  | succ fuel =>
      have enoughItem : 2 * text.length ≤ fuel ∧ 2 * rest.length ≤ fuel := by
        simp only [List.length_append, List.length_cons] at enough
        omega
      have comma : Avoids (',' :: (gap' ++ (rest ++ later))) isSpace := avoids_space_cons (by decide) _
      have stops : Stops (gap ++ ',' :: (gap' ++ (rest ++ later))) :=
        spaces.stops_append (by decide) _
      rcases taken fuel offset _ enoughItem.1 stops with ⟨after, read⟩
      rcases takenRest fuel (after + gap.length + 1 + gap'.length) later enoughItem.2 with
        ⟨end_, readRest⟩
      refine ⟨end_, ?_⟩
      rw [readItems]
      refine Outcome.bind_eq_ok_iff.2 ⟨_, by simpa using read, ?_⟩
      simp only [skipSpaces_append spaces comma, Cursor.skip, List.drop_one, List.tail_cons,
        skipSpaces_append spaces' (written.avoids_space later), readRest]
      rfl

/-- A name is read as a string, and a colon is found behind it. -/
theorem readString_name
    {opening : List Char} {name : String} (written : NameText opening name) {text : List Char}
    (avoids : Avoids text isSpace) (offset : Nat) :
    ∃ afterName colon rest start,
      readString ⟨offset, opening ++ text⟩ = .ok (name, afterName) ∧
        afterName.skipSpaces = ⟨colon, ':' :: rest⟩ ∧
          Cursor.skipSpaces ⟨colon + 1, rest⟩ = ⟨start, text⟩ := by
  cases written with
  | @name body codes gap gap' body_ spaces spaces' =>
      have colonNext : Avoids (':' :: (gap' ++ text)) isSpace := avoids_space_cons (by decide) _
      rcases readString_append body_ (gap ++ ':' :: (gap' ++ text)) offset with ⟨after, read⟩
      exact ⟨_, _, _, _, by simpa using read, skipSpaces_append spaces colonNext after,
        skipSpaces_append spaces' avoids _⟩

theorem NameText.startsWithQuote
    {opening : List Char} {name : String} (written : NameText opening name) (text : List Char) :
    ∃ rest, opening ++ text = '"' :: rest := by
  rcases written.opening with ⟨rest, rfl⟩
  exact ⟨_, rfl⟩

theorem isTaken_lastMember
    {names : List String → Prop} {opening text gap : List Char} {name : String} {value : Value}
    (named : NameText opening name) (written : Writes names text (.value value))
    (taken : IsTaken text (.value value)) (spaces : Spaces gap) :
    IsTaken (opening ++ (text ++ (gap ++ ['\x7d']))) (.members [(name, value)]) := by
  intro fuel offset rest enough
  cases fuel with
  | zero => simp at enough
  | succ fuel =>
      have enoughValue : 2 * text.length ≤ fuel := by
        simp only [List.length_append, List.length_singleton] at enough
        omega
      have brace : Avoids ('\x7d' :: rest) isSpace := avoids_space_cons (by decide) rest
      have stops : Stops (gap ++ '\x7d' :: rest) := spaces.stops_append (by decide) rest
      rcases readString_name named (written.avoids_space (gap ++ '\x7d' :: rest)) offset with
        ⟨afterName, colon, later, start, readName, colonFound, valueFound⟩
      rcases taken fuel start _ enoughValue stops with ⟨after, read⟩
      refine ⟨after + gap.length + 1, ?_⟩
      simp only [List.append_assoc, List.cons_append, List.nil_append]
      rw [readMembers]
      rcases named.startsWithQuote (text ++ (gap ++ '\x7d' :: rest)) with ⟨inside, starts⟩
      rw [starts] at readName ⊢
      refine Outcome.bind_eq_ok_iff.2 ⟨_, readName, ?_⟩
      simp only [colonFound, Cursor.skip, List.drop_one, List.tail_cons, valueFound]
      refine Outcome.bind_eq_ok_iff.2 ⟨_, read, ?_⟩
      simp only [skipSpaces_append spaces brace]
      rfl

theorem isTaken_member
    {names : List String → Prop} {opening text gap gap' rest : List Char} {name : String}
    {value : Value} {members : List (String × Value)}
    (named : NameText opening name) (written : Writes names text (.value value))
    (taken : IsTaken text (.value value)) (spaces : Spaces gap) (spaces' : Spaces gap')
    (writtenRest : Writes names rest (.members members)) (takenRest : IsTaken rest (.members members)) :
    IsTaken (opening ++ (text ++ (gap ++ ',' :: (gap' ++ rest)))) (.members ((name, value) :: members)) := by
  intro fuel offset later enough
  cases fuel with
  | zero => simp at enough
  | succ fuel =>
      have enoughValue : 2 * text.length ≤ fuel ∧ 2 * rest.length ≤ fuel := by
        simp only [List.length_append, List.length_cons] at enough
        omega
      let separated := gap ++ ',' :: (gap' ++ (rest ++ later))
      have comma : Avoids (',' :: (gap' ++ (rest ++ later))) isSpace := avoids_space_cons (by decide) _
      have stops : Stops separated := spaces.stops_append (by decide) _
      rcases readString_name named (written.avoids_space separated) offset with
        ⟨afterName, colon, others, start, readName, colonFound, valueFound⟩
      rcases taken fuel start _ enoughValue.1 stops with ⟨after, read⟩
      rcases takenRest fuel (after + gap.length + 1 + gap'.length) later enoughValue.2 with
        ⟨end_, readRest⟩
      refine ⟨end_, ?_⟩
      simp only [List.append_assoc, List.cons_append]
      rw [readMembers]
      rcases named.startsWithQuote (text ++ separated) with ⟨inside, starts⟩
      rw [starts] at readName ⊢
      refine Outcome.bind_eq_ok_iff.2 ⟨_, readName, ?_⟩
      simp only [colonFound, Cursor.skip, List.drop_one, List.tail_cons, valueFound]
      refine Outcome.bind_eq_ok_iff.2 ⟨_, read, ?_⟩
      simp only [separated, skipSpaces_append spaces comma, List.tail_cons,
        skipSpaces_append spaces' (writtenRest.avoids_space later), readRest]
      rfl

/-- Whatever is written is taken as what it writes. -/
theorem Writes.isTaken
    {names : List String → Prop} {text : List Char} {part : Part} (written : Writes names text part) :
    IsTaken text part := by
  induction written with
  | scalar written => exact isTaken_scalar written
  | string written => exact isTaken_string written
  | emptyArray spaces => exact isTaken_emptyArray spaces
  | array spaces written taken => exact isTaken_array spaces written taken
  | emptyObject spaces => exact isTaken_emptyObject spaces
  | object spaces written _ taken => exact isTaken_object spaces written taken
  | lastItem _ spaces taken => exact isTaken_lastItem taken spaces
  | item _ spaces spaces' written taken takenRest =>
      exact isTaken_item taken spaces spaces' written takenRest
  | lastMember named written spaces taken => exact isTaken_lastMember named written taken spaces
  | member named written spaces spaces' writtenRest taken takenRest =>
      exact isTaken_member named written taken spaces spaces' writtenRest takenRest

/-! ## Whole texts -/

/-- A JSON text starts with white space or with a value. -/
theorem IsText.opening
    {names : List String → Prop} {text : List Char} {value : Value} (isText : IsText names text value)
    {c : Char} (atHead : text.head? = some c) :
    isSpace c = true ∨ OpensValue c := by
  cases isText with
  | @value before body after _ spaces written _ =>
      cases before with
      | nil => exact .inr (written.opensValue atHead)
      | cons space before =>
          rw [← Option.some.inj atHead]
          exact .inl (spaces space List.mem_cons_self)

/-- A JSON text is read as the value that it writes. -/
theorem IsText.readText
    {names : List String → Prop} {text : List Char} {value : Value} (isText : IsText names text value) :
    readText text = .ok value := by
  have noMark : text.head? ≠ some (Char.ofNat 0xFEFF) :=
    fun mark => absurd (isText.opening mark) (by decide)
  rw [Json.readText, if_neg noMark]
  cases isText with
  | @value before body after _ spaces written spaces' =>
      have enough : 2 * body.length ≤ 2 * (before ++ (body ++ after)).length + 2 := by
        simp only [List.length_append]
        omega
      rcases written.isTaken _ (0 + before.length) after enough spaces'.stops with ⟨end_, read⟩
      have none : Avoids [] isSpace := nofun
      have skipped := skipSpaces_append spaces' none end_
      rw [List.append_nil] at skipped
      rw [skipSpaces_append spaces (written.avoids_space after)]
      refine Outcome.bind_eq_ok_iff.2 ⟨_, read, ?_⟩
      simp only [skipped]
      rfl

/-- The reader takes exactly the JSON texts. -/
theorem readText_eq_ok_iff {text : List Char} {value : Value} :
    readText text = .ok value ↔ IsText anyNames text value := by
  refine ⟨fun read => ?_, IsText.readText⟩
  rw [readText] at read
  split at read
  · cases read
  · rcases skipSpaces_sound 0 text with ⟨before, start, rest, spaces, rfl, skipped⟩
    rw [skipped] at read
    rcases Outcome.bind_eq_ok_iff.1 read with ⟨⟨result, end_, later⟩, valueRead, ended⟩
    rcases (soundWith _).value valueRead with ⟨body, written, rfl⟩
    rcases skipSpaces_sound end_ later with ⟨after, final, rest, spaces', rfl, skipped'⟩
    simp only [skipped'] at ended
    split at ended
    · rename_i nothing
      cases ended
      rw [List.isEmpty_iff.1 nothing, List.append_nil]
      exact .value spaces written spaces'
    · cases ended

/-- Reading takes exactly the JSON texts, each as the value that it writes. -/
theorem read_eq_ok_iff {text : String} {value : Value} :
    read text = .ok value ↔ IsText anyNames text.toList value := by
  rw [read, Outcome.mapError_eq_ok_iff, readText_eq_ok_iff]

theorem IsText.read
    {names : List String → Prop} {text : String} {value : Value} (isText : IsText names text.toList value) :
    read text = .ok value := by
  rw [Json.read, isText.readText]
  rfl

end RowPlan.Json
