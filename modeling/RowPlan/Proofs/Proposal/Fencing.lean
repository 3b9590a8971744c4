import RowPlan.Proofs.Proposal.Thinning

/-!
# Replies in code blocks

A JSON object that is wrapped as a code block is read from what is left when all marks of code blocks have
been removed. That is a JSON object again. It is the same object if there is no mark in its text. If there
is one, then its strings lose ticks, and as long as no object repeats a name it is not the same.
-/

namespace RowPlan

namespace Text

/-- What stands between blanks is left when both ends are trimmed. -/
theorem trimWhere_append
    {drop : Char → Bool} {before inside after : List Char} {first last : Char}
    (dropsBefore : ∀ c ∈ before, drop c = true) (dropsAfter : ∀ c ∈ after, drop c = true)
    (keepsFirst : drop first = false) (keepsLast : drop last = false) :
    trimWhere drop (before ++ (first :: (inside ++ [last]) ++ after)) = first :: (inside ++ [last]) := by
  have dropsReversed : ∀ c ∈ after.reverse, drop c = true :=
    fun c member => dropsAfter c (List.mem_reverse.1 member)
  rw [trimWhere, List.dropWhile_append_of_pos dropsBefore, List.cons_append,
    List.dropWhile_cons_of_neg (by simp [keepsFirst]), ← List.cons_append, List.reverse_append,
    List.dropWhile_append_of_pos dropsReversed, ← List.cons_append, List.reverse_append]
  simp [keepsLast]

end Text

namespace Proposal

open Json

/-- A text that is wrapped as a code block. -/
def fenced (text : String) : String := "```json\n" ++ text ++ "\n```"

theorem toList_fenced (text : String) :
    (fenced text).toList =
      "```json".toList ++ '\n' :: (text.toList ++ '\n' :: "```".toList) := by
  have opening : "```json\n".toList = "```json".toList ++ ['\n'] := by decide
  have closing : "\n```".toList = '\n' :: "```".toList := by decide
  simp only [fenced, String.toList_append, opening, closing, List.append_assoc, List.cons_append,
    List.nil_append]

/-- The marks of the block are removed with those that it contains. -/
theorem unmark_fenced (text : String) :
    unmark (fenced text).toList = '\n' :: (unmark text.toList ++ ['\n']) := by
  have opening : unmark "```json".toList = [] := by decide
  have closing : unmark "```".toList = [] := by decide
  rw [toList_fenced, thins_unmark.boundary (.inl rfl), thins_unmark.boundary (.inl rfl), opening, closing]
  rfl

/-! ## The text of an object -/

/-- Members are written up to a closing brace. -/
theorem getLast_of_members
    {names : List String → Prop} {text : List Char} {part : Part} (written : Writes names text part)
    {members : List (String × Value)} (areMembers : part = .members members) :
    text.getLast? = some '\x7d' := by
  induction written generalizing members with
  | lastMember => simp
  | member _ _ _ _ _ _ later => simp [List.getLast?_cons, later rfl]
  | _ => cases areMembers

/-- An object is written between braces. -/
theorem object_braces
    {names : List String → Prop} {text : List Char} {members : Row}
    (written : Writes names text (.value (.obj members))) :
    ∃ inside, text = '\x7b' :: (inside ++ ['\x7d']) := by
  cases written with
  | scalar written =>
      cases written with
      | word member => simp [words] at member
  | emptyObject => exact ⟨_, rfl⟩
  | @object gap text pairs _ written =>
      rcases List.getLast?_eq_some_iff.1 (getLast_of_members written rfl) with ⟨inside, rfl⟩
      exact ⟨gap ++ inside, by rw [List.append_assoc]⟩

theorem obj_of_kind {value : Value} (isObject : value.kind = .object) : ∃ members, value = .obj members := by
  cases value with
  | obj members => exact ⟨members, rfl⟩
  | _ => cases isObject

theorem isBlank_of_spaces {gap : List Char} (spaces : Spaces gap) : ∀ c ∈ gap, Text.isBlank c = true := by
  intro c member
  rcases isSpace_cases (spaces c member) with rfl | rfl | rfl | rfl <;> decide

/-- Without its marks and the blanks around it, a wrapped object is an object between braces. -/
theorem stripFences_fenced
    {names : List String → Prop} {text : String} {members : Row}
    (isText : IsText names (unmark text.toList) (.obj members)) :
    ∃ inside, stripFences (fenced text).toList = '\x7b' :: (inside ++ ['\x7d']) ∧
      IsText names ('\x7b' :: (inside ++ ['\x7d'])) (.obj members) := by
  show ∃ inside, Text.trimWhere Text.isBlank (unmark (fenced text).toList) = _ ∧ _
  rw [unmark_fenced]
  generalize unmark text.toList = unmarked at isText
  cases isText with
  | @value before body after _ spaces written spaces' =>
      rcases object_braces written with ⟨inside, rfl⟩
      have lineFeed : Text.isBlank '\n' = true := by decide
      have whole : IsText names ([] ++ ('\x7b' :: (inside ++ ['\x7d']) ++ [])) (.obj members) :=
        .value nofun written nofun
      rw [List.nil_append, List.append_nil] at whole
      refine ⟨inside, ?_, whole⟩
      have blankBefore : ∀ c ∈ '\n' :: before, Text.isBlank c = true :=
        List.forall_mem_cons.2 ⟨lineFeed, isBlank_of_spaces spaces⟩
      have blankAfter : ∀ c ∈ after ++ ['\n'], Text.isBlank c = true :=
        List.forall_mem_append.2 ⟨isBlank_of_spaces spaces', by simpa using lineFeed⟩
      have trimmed :
          Text.trimWhere Text.isBlank
            (('\n' :: before) ++ ('\x7b' :: (inside ++ ['\x7d']) ++ (after ++ ['\n']))) =
              '\x7b' :: (inside ++ ['\x7d']) :=
        Text.trimWhere_append blankBefore blankAfter (by decide) (by decide)
      simpa using trimmed

/-! ## The payload of a block -/

theorem toOption_read_of_tick {text : List Char} (ticked : text.head? = some tick) :
    (Json.read (String.ofList text)).toOption = none := by
  cases decoded : Json.read (String.ofList text) with
  | error => rfl
  | ok value =>
      rw [read_eq_ok_iff, String.toList_ofList] at decoded
      exact absurd (decoded.opening ticked) (by decide)

/-- A wrapped text gives the object that is left without its marks. -/
theorem payload_fenced
    {names : List String → Prop} {text : String} {members : Row}
    (isText : IsText names (unmark text.toList) (.obj members)) :
    payload (some (fenced text)) = .ok (.obj members) := by
  rcases stripFences_fenced isText with ⟨inside, stripped, isObject⟩
  have ticked : (fenced text).toList.head? = some tick := by
    rw [toList_fenced]
    rfl
  have notBlank : Text.isBlankText (fenced text) = false := by
    refine List.all_eq_false.2 ⟨tick, List.mem_of_head? ticked, by decide⟩
  have other : stripFences (fenced text).toList ≠ (fenced text).toList := by
    intro same
    rw [← same, stripped] at ticked
    exact absurd (Option.some.inj ticked) (by decide)
  have decoded : Json.read (String.ofList (stripFences (fenced text).toList)) = .ok (.obj members) := by
    rw [stripped, Json.read, String.toList_ofList, isObject.readText]
    rfl
  have found :
      ((strategies (fenced text).toList).findSome? fun part =>
        (Json.read (String.ofList part)).toOption) = some (.obj members) := by
    simp only [strategies, if_neg other, List.cons_append, List.nil_append,
      List.findSome?_cons, toOption_read_of_tick ticked, decoded]
    rfl
  rw [payload]
  simp only [Option.getD_some, notBlank, found]
  rfl

/-- Characters that stand for themselves are the inside of a string. -/
theorem stringBody_plain
    {body : List Char} (arePlain : body.all isPlain = true) :
    StringBody body (body.map Char.toNat) := by
  induction body with
  | nil => exact .nil
  | cons c body later =>
      rw [List.all_cons, Bool.and_eq_true] at arePlain
      exact .plain arePlain.1 (later arePlain.2)

/-- The text of an object with a text for a name. -/
theorem isText_single
    {text : List Char} {key value : String} (name body : List Char)
    (spelled :
      text = '\x7b' :: '"' :: (name ++ '"' :: ':' :: ' ' :: '"' :: (body ++ ['"', '\x7d'])))
    (plainName : name.all isPlain = true) (plainBody : body.all isPlain = true)
    (isKey : joinSurrogates (name.map Char.toNat) = key.toList)
    (isValue : joinSurrogates (body.map Char.toNat) = value.toList) :
    IsText List.Nodup text (.obj [(key, .str value)]) := by
  have keyText : textOf (name.map Char.toNat) = key := by rw [textOf, isKey, String.ofList_toList]
  have valueText : textOf (body.map Char.toNat) = value := by rw [textOf, isValue, String.ofList_toList]
  have none : Spaces [] := List.forall_mem_nil _
  have blank : Spaces [' '] := List.forall_mem_singleton.2 rfl
  have opening : NameText ('"' :: (name ++ '"' :: ([] ++ ':' :: [' ']))) key :=
    keyText ▸ .name (stringBody_plain plainName) none blank
  have string : Writes List.Nodup ('"' :: (body ++ ['"'])) (.value (.str value)) :=
    valueText ▸ .string (stringBody_plain plainBody)
  have object := Writes.object none (.lastMember opening string none) (by simp)
  have isText := IsText.value none object none
  rw [spelled]
  simpa [Row.ofPairs, Row.setAll, Row.set] using isText

/-- A JSON object that is wrapped as a code block gives the object that its text is read as without marks, and
there always is one. The object is the same if there is no mark in the text. As long as no object in the text
repeats a name, it is the same only then. -/
theorem fenced_object_kept_iff
    {text : String} {members : Row} (decoded : Json.read text = .ok (.obj members)) :
    (∃ members', Json.read (String.ofList (unmark text.toList)) = .ok (.obj members') ∧
        payload (some (fenced text)) = .ok (.obj members')) ∧
      (¬ HasMark text.toList → payload (some (fenced text)) = .ok (.obj members)) ∧
        (IsText List.Nodup text.toList (.obj members) →
          (payload (some (fenced text)) = .ok (.obj members) ↔ ¬ HasMark text.toList)) := by
  have isText : IsText anyNames text.toList (.obj members) := read_eq_ok_iff.1 decoded
  have kept : ¬ HasMark text.toList → payload (some (fenced text)) = .ok (.obj members) := by
    intro noMark
    rw [← unmark_eq_self_iff] at noMark
    exact payload_fenced (noMark ▸ isText)
  refine ⟨?_, kept, fun distinct => ⟨fun same present => ?_, kept⟩⟩
  · rcases isText_thin thins_unmark isText with ⟨value', isText', sameKind, _⟩
    rcases obj_of_kind sameKind with ⟨members', rfl⟩
    refine ⟨members', read_eq_ok_iff.2 ?_, payload_fenced isText'⟩
    rwa [String.toList_ofList]
  · rcases isText_thin thins_unmark distinct with ⟨value', isText', sameKind, ticks⟩
    rcases obj_of_kind sameKind with ⟨members', rfl⟩
    rw [payload_fenced isText'] at same
    cases same
    -- The object is the same, so it has lost no ticks, while its text has lost those of a mark.
    have fewer := ticks fun _ => id
    rcases thins_unmark.fewer text.toList with unchanged | lost
    · exact (unmark_eq_self_iff _).1 unchanged present
    · omega

/-- A text with single ticks is kept. -/
theorem fenced_object_kept_iff_quoted :
    let text := "\x7b\"a\": \"\x60b\x60\"\x7d"
    let members : Row := [("a", .str "\x60b\x60")]
    Json.read text = .ok (.obj members) ∧ IsText List.Nodup text.toList (.obj members) ∧
      payload (some (fenced text)) = .ok (.obj members) := by
  intro text members
  have isText : IsText List.Nodup text.toList (.obj members) :=
    isText_single ['a'] [tick, 'b', tick] (by decide) (by decide) (by decide) (by decide) (by decide)
  have decoded : Json.read text = .ok (.obj members) := isText.read
  have noMark : ¬ HasMark text.toList := by
    rw [← unmark_eq_self_iff]
    decide
  exact ⟨decoded, isText, ((fenced_object_kept_iff decoded).2.2 isText).2 noMark⟩

/-- Fencing removes a mark in a string. -/
theorem mark_in_string_lost :
    let text := "\x7b\"a\": \"```\"\x7d"
    Json.read text = .ok (.obj [("a", .str "```")]) ∧
      payload (some (fenced text)) = .ok (.obj [("a", .str "")]) ∧
        payload (some (fenced text)) ≠ .ok (.obj [("a", .str "```")]) := by
  intro text
  have isText : IsText List.Nodup text.toList (.obj [("a", .str "```")]) :=
    isText_single ['a'] [tick, tick, tick] (by decide) (by decide) (by decide) (by decide) (by decide)
  have unmarked : IsText List.Nodup (unmark text.toList) (.obj [("a", .str "")]) :=
    isText_single ['a'] [] (by decide) (by decide) (by decide) (by decide) (by decide)
  have emptied : payload (some (fenced text)) = .ok (.obj [("a", .str "")]) := payload_fenced unmarked
  refine ⟨isText.read, emptied, ?_⟩
  rw [emptied]
  simp

end Proposal

end RowPlan
