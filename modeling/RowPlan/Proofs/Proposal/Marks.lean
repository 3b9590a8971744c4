import Mathlib.Data.List.Count
import RowPlan.Proofs.Json.Grammar
import RowPlan.Proposal.Payload

/-!
# Removing the marks of code blocks

The marks are removed wherever they stand, inside of strings too. Each begins with a tick, so a text without
ticks is left as it is, and a mark never reaches across the quotes of a string or the end of a line. The
inside of a string is still one when the marks in it have been removed, and its text has lost as many ticks
as the string.
-/

namespace RowPlan.Proposal

open Json (StringBody isPlain isPlain_iff)

/-- The character that every mark begins with. -/
def tick : Char := '\x60'

/-- Text that may be removed as a mark: it begins with a tick, and a string may contain it as it is. -/
structure IsMark (mark : List Char) : Prop where
  starts : mark.head? = some tick
  plain : mark.all isPlain = true

/-- Characters that stand for themselves may be taken from the front of the inside of a string. -/
theorem stringBody_of_append
    {plain rest : List Char} (arePlain : plain.all isPlain = true) {codes : List Nat}
    (written : StringBody (plain ++ rest) codes) :
    ∃ codes', StringBody rest codes' ∧ codes = plain.map Char.toNat ++ codes' := by
  induction plain generalizing codes with
  | nil => exact ⟨codes, written, rfl⟩
  | cons c plain later =>
      rw [List.all_cons, Bool.and_eq_true] at arePlain
      generalize same : c :: plain ++ rest = text at written
      cases written with
      | nil => cases same
      | plain _ written =>
          cases same
          rcases later arePlain.2 written with ⟨codes', restWritten, rfl⟩
          exact ⟨codes', restWritten, rfl⟩
      | escape | unicode => exact absurd (List.cons.inj same).1 (isPlain_iff.1 arePlain.1).2.1

theorem tick_not_mem_of_simpleEscape
    {c : Char} {code : Nat} (simple : Json.simpleEscape? c = some code) : tick ∉ ['\\', c] := by
  simp only [List.mem_cons, List.not_mem_nil, or_false, not_or]
  refine ⟨by decide, ?_⟩
  rintro rfl
  cases simple

theorem tick_not_mem_of_hexCode
    {a b c d : Char} {code : Nat} (hex : Json.hexCode? a b c d = some code) :
    tick ∉ ['\\', 'u', a, b, c, d] := by
  have noHex : Text.hexValue? tick = none := by decide
  simp only [List.mem_cons, List.not_mem_nil, or_false, not_or]
  refine ⟨by decide, by decide, ?_, ?_, ?_, ?_⟩
  all_goals
    rintro rfl
    simp [Json.hexCode?, noHex] at hex

/-- The inside of a string is one after thinning, and both lose the same ticks. -/
def KeepsString (thin : List Char → List Char) (body : List Char) (codes : List Nat) : Prop :=
  ∃ codes', StringBody (thin body) codes' ∧
    codes'.count tick.toNat + body.count tick = codes.count tick.toNat + (thin body).count tick

/-! ## One mark -/

theorem removeMark_skip (mark : List Char) (skip : Nat) (text : List Char) :
    removeMark mark skip text = removeMark mark 0 (text.drop skip) := by
  induction skip generalizing text with
  | zero => rfl
  | succ left later =>
      cases text with
      | nil => rfl
      | cons c rest => exact later rest

theorem removeMark_cons
    {mark : List Char} {c : Char} {rest : List Char} (notHere : ¬ mark <+: c :: rest) :
    removeMark mark 0 (c :: rest) = c :: removeMark mark 0 rest := by
  simp only [removeMark, List.isPrefixOf_iff_prefix, if_neg notHere]

section

variable {mark : List Char} (isMark : IsMark mark)

include isMark

theorem IsMark.tick_mem : tick ∈ mark := List.mem_of_head? isMark.starts

theorem IsMark.length_pos : 0 < mark.length := List.length_pos_of_mem isMark.tick_mem

theorem removeMark_append (rest : List Char) :
    removeMark mark 0 (mark ++ rest) = removeMark mark 0 rest := by
  rcases List.head?_eq_some_iff.1 isMark.starts with ⟨letters, rfl⟩
  have here : tick :: letters <+: tick :: (letters ++ rest) := List.prefix_append (tick :: letters) rest
  simp only [List.cons_append, removeMark, List.isPrefixOf_iff_prefix, if_pos here]
  rw [removeMark_skip]
  simp

theorem not_isPrefix_of_ne_tick {c : Char} (other : c ≠ tick) (rest : List Char) :
    ¬ mark <+: c :: rest := by
  rcases List.head?_eq_some_iff.1 isMark.starts with ⟨letters, rfl⟩
  rintro ⟨later, same⟩
  exact other (List.cons.inj same).1.symm

/-- A text ends, begins with the mark, or begins with a character that is kept. -/
theorem removeMark_induction
    {motive : List Char → Prop} (nil : motive []) (removed : ∀ rest, motive rest → motive (mark ++ rest))
    (kept : ∀ c rest, ¬ mark <+: c :: rest → motive rest → motive (c :: rest)) (text : List Char) :
    motive text := by
  induction size : text.length using Nat.strongRecOn generalizing text with
  | ind length shorter =>
      cases text with
      | nil => exact nil
      | cons c rest =>
          by_cases here : mark <+: c :: rest
          · rcases here with ⟨later, same⟩
            rw [← same]
            refine removed later (shorter _ ?_ later rfl)
            rw [← size, ← same, List.length_append]
            exact Nat.lt_add_of_pos_left isMark.length_pos
          · exact kept c rest here (shorter _ (by rw [← size]; exact Nat.lt_succ_self _) rest rfl)

theorem removeMark_of_not_isInfix
    {text : List Char} (absent : ¬ mark <:+: text) : removeMark mark 0 text = text := by
  induction text using removeMark_induction isMark with
  | nil => rfl
  | removed rest _ => exact absurd (List.prefix_append mark rest).isInfix absent
  | kept c rest notHere later =>
      rw [removeMark_cons notHere, later fun inside => absent (List.infix_cons inside)]

/-- Where there is a mark, ticks are lost. -/
theorem count_removeMark_lt
    {text : List Char} (present : mark <:+: text) :
    (removeMark mark 0 text).count tick < text.count tick := by
  induction text using removeMark_induction isMark with
  | nil =>
      rw [List.infix_nil.1 present] at isMark
      cases isMark.tick_mem
  | removed rest later =>
      have ticks : 0 < mark.count tick := List.count_pos_iff.2 isMark.tick_mem
      rw [removeMark_append isMark, List.count_append]
      by_cases again : mark <:+: rest
      · have fewer := later again
        omega
      · rw [removeMark_of_not_isInfix isMark again]
        omega
  | kept c rest notHere later =>
      rw [removeMark_cons notHere, List.count_cons, List.count_cons]
      rcases List.infix_cons_iff.1 present with here | inside
      · exact absurd here notHere
      · exact Nat.add_lt_add_right (later inside) _

theorem removeMark_append_of_not_mem
    {text : List Char} (noTick : tick ∉ text) (rest : List Char) :
    removeMark mark 0 (text ++ rest) = text ++ removeMark mark 0 rest := by
  induction text with
  | nil => rfl
  | cons c text later =>
      rw [List.mem_cons, not_or] at noTick
      rw [List.cons_append, removeMark_cons (not_isPrefix_of_ne_tick isMark (Ne.symm noTick.1) _),
        later noTick.2, List.cons_append]

/-- No mark reaches across a character that is in none. -/
theorem removeMark_append_cons
    {c : Char} (outside : c ∉ mark) (text rest : List Char) :
    removeMark mark 0 (text ++ c :: rest) = removeMark mark 0 text ++ c :: removeMark mark 0 rest := by
  induction text using removeMark_induction isMark with
  | nil =>
      have other : c ≠ tick := by
        rintro rfl
        exact outside isMark.tick_mem
      exact removeMark_cons (not_isPrefix_of_ne_tick isMark other rest)
  | removed text later =>
      rw [List.append_assoc, removeMark_append isMark, removeMark_append isMark, later]
  | kept first text notHere later =>
      have notHere' : ¬ mark <+: first :: (text ++ c :: rest) := by
        intro here
        have upToThere : (first :: text) ++ [c] <+: first :: (text ++ c :: rest) := ⟨rest, by simp⟩
        rcases List.prefix_or_prefix_of_prefix here upToThere with inside | across
        · rcases List.prefix_concat_iff.1 inside with same | inside
          · exact outside (same ▸ by simp)
          · exact notHere inside
        · exact outside (across.subset (by simp))
      rw [List.cons_append, removeMark_cons notHere', removeMark_cons notHere, later, List.cons_append]

theorem keepsString_append
    {token rest : List Char} {code : Nat} {codes : List Nat} (noTick : tick ∉ token)
    (before : ∀ {body codes}, StringBody body codes → StringBody (token ++ body) (code :: codes))
    (later : KeepsString (removeMark mark 0) rest codes) :
    KeepsString (removeMark mark 0) (token ++ rest) (code :: codes) := by
  rcases later with ⟨codes', written', ticks⟩
  rw [KeepsString, removeMark_append_of_not_mem isMark noTick]
  refine ⟨code :: codes', before written', ?_⟩
  simp only [List.count_append, List.count_cons]
  omega

theorem keepsString_mark
    {rest : List Char} {codes : List Nat} (later : KeepsString (removeMark mark 0) rest codes) :
    KeepsString (removeMark mark 0) (mark ++ rest) (mark.map Char.toNat ++ codes) := by
  rcases later with ⟨codes', written', ticks⟩
  have counted : (mark.map Char.toNat).count tick.toNat = mark.count tick :=
    List.count_map_of_injective mark Char.toNat (fun _ _ => Char.toNat_inj.1) tick
  rw [KeepsString, removeMark_append isMark]
  refine ⟨codes', written', ?_⟩
  rw [List.count_append, List.count_append, counted]
  omega

/-- The inside of a string is one without its marks. -/
theorem keepsString_removeMark
    {body : List Char} {codes : List Nat} (written : StringBody body codes) :
    KeepsString (removeMark mark 0) body codes := by
  induction size : body.length using Nat.strongRecOn generalizing body codes with
  | ind length shorter =>
      by_cases here : mark <+: body
      · rcases here with ⟨rest, rfl⟩
        rcases stringBody_of_append isMark.plain written with ⟨codes, restWritten, rfl⟩
        refine keepsString_mark isMark (shorter _ ?_ restWritten rfl)
        rw [← size, List.length_append]
        exact Nat.lt_add_of_pos_left isMark.length_pos
      · cases written with
        | nil => exact ⟨[], .nil, rfl⟩
        | @plain c rest codes plain written =>
            rcases shorter _ (by simp [← size]) written rfl with ⟨codes', written', ticks⟩
            rw [KeepsString, removeMark_cons here]
            refine ⟨_, .plain plain written', ?_⟩
            simp only [List.count_cons]
            omega
        | @escape c code rest codes simple written =>
            have less : rest.length < length := by
              simp only [← size, List.length_cons]
              omega
            exact keepsString_append isMark (tick_not_mem_of_simpleEscape simple) (.escape simple)
              (shorter _ less written rfl)
        | @unicode a b c d code rest codes hex written =>
            have less : rest.length < length := by
              simp only [← size, List.length_cons]
              omega
            exact keepsString_append isMark (tick_not_mem_of_hexCode hex) (.unicode hex)
              (shorter _ less written rfl)

end

/-! ## Several marks -/

/-- In front of any other text, the text is thinned to another one. -/
def ThinsText (thin : List Char → List Char) (text thinned : List Char) : Prop :=
  ∀ rest, thin (text ++ rest) = thinned ++ thin rest

/-- A way of removing ticks and what goes with them that respects ends of lines and strings. -/
structure Thins (thin : List Char → List Char) : Prop where
  nil : thin [] = []
  append : ∀ {text}, tick ∉ text → ThinsText thin text text
  boundary : ∀ {c}, c = '\n' ∨ c = '"' → ∀ text rest,
    thin (text ++ c :: rest) = thin text ++ c :: thin rest
  body : ∀ {body codes}, StringBody body codes → KeepsString thin body codes
  fewer : ∀ text, thin text = text ∨ (thin text).count tick < text.count tick

theorem Thins.count_le {thin : List Char → List Char} (thins : Thins thin) (text : List Char) :
    (thin text).count tick ≤ text.count tick := by
  rcases thins.fewer text with same | fewer
  · exact Nat.le_of_eq (congrArg (List.count tick) same)
  · exact Nat.le_of_lt fewer

theorem thins_id : Thins fun text => text where
  nil := rfl
  append _ _ := rfl
  boundary _ _ _ := rfl
  body written := ⟨_, written, rfl⟩
  fewer _ := .inl rfl

theorem thins_removeMark {mark : List Char} (isMark : IsMark mark) : Thins (removeMark mark 0) where
  nil := rfl
  append := removeMark_append_of_not_mem isMark
  boundary := by
    intro c isEnd
    refine removeMark_append_cons isMark fun member => ?_
    have plain := List.all_eq_true.1 isMark.plain c member
    rcases isEnd with rfl | rfl
    · exact absurd plain (by decide)
    · exact absurd plain (by decide)
  body := keepsString_removeMark isMark
  fewer text := by
    by_cases present : mark <:+: text
    · exact .inr (count_removeMark_lt isMark present)
    · exact .inl (removeMark_of_not_isInfix isMark present)

theorem Thins.comp
    {first second : List Char → List Char} (firstThins : Thins first) (secondThins : Thins second) :
    Thins fun text => second (first text) where
  nil := by rw [firstThins.nil, secondThins.nil]
  append {text} noTick rest := by
    show second (first (text ++ rest)) = text ++ second (first rest)
    rw [firstThins.append noTick, secondThins.append noTick]
  boundary isEnd text rest := by rw [firstThins.boundary isEnd, secondThins.boundary isEnd]
  body written := by
    rcases firstThins.body written with ⟨codes', written', ticks⟩
    rcases secondThins.body written' with ⟨codes'', written'', ticks'⟩
    refine ⟨codes'', written'', ?_⟩
    dsimp only
    omega
  fewer text := by
    have less := secondThins.count_le (first text)
    rcases firstThins.fewer text with same | fewer
    · rw [same]
      exact secondThins.fewer text
    · exact .inr (Nat.lt_of_le_of_lt less fewer)

/-- A text without several marks, removed one after the other. -/
def removeMarks (marks : List String) (text : List Char) : List Char :=
  marks.foldl (fun text mark => removeMark mark.toList 0 text) text

theorem thins_removeMarks
    {marks : List String} (areMarks : ∀ mark ∈ marks, IsMark mark.toList) : Thins (removeMarks marks) := by
  induction marks with
  | nil => exact thins_id
  | cons mark marks later =>
      rw [List.forall_mem_cons] at areMarks
      exact (thins_removeMark areMarks.1).comp (later areMarks.2)

/-- A text is left as it is if there is none of the marks in it, and only then. -/
theorem removeMarks_eq_self_iff
    {marks : List String} (areMarks : ∀ mark ∈ marks, IsMark mark.toList) (text : List Char) :
    removeMarks marks text = text ↔ ∀ mark ∈ marks, ¬ mark.toList <:+: text := by
  induction marks with
  | nil => exact iff_of_true rfl nofun
  | cons mark marks later =>
      rw [List.forall_mem_cons] at areMarks ⊢
      show removeMarks marks (removeMark mark.toList 0 text) = text ↔ _
      by_cases present : mark.toList <:+: text
      · refine iff_of_false (fun same => ?_) fun absent => absent.1 present
        have fewer := count_removeMark_lt areMarks.1 present
        have less := (thins_removeMarks areMarks.2).count_le (removeMark mark.toList 0 text)
        rw [same] at less
        exact absurd fewer (Nat.not_lt.2 less)
      · rw [removeMark_of_not_isInfix areMarks.1 present, later areMarks.2, and_iff_right present]

/-! ## The marks of code blocks -/

/-- A text without the marks of code blocks. -/
def unmark : List Char → List Char := removeMarks fenceMarks

/-- Whether there is a mark of a code block in a text. -/
def HasMark (text : List Char) : Prop := "```".toList <:+: text

theorem isMark_of_mem_fenceMarks : ∀ mark ∈ fenceMarks, IsMark mark.toList := by
  intro mark member
  simp only [fenceMarks, List.mem_cons, List.not_mem_nil, or_false] at member
  rcases member with rfl | rfl | rfl <;> exact ⟨by decide, by decide⟩

theorem thins_unmark : Thins unmark := thins_removeMarks isMark_of_mem_fenceMarks

theorem unmark_eq_self_iff (text : List Char) : unmark text = text ↔ ¬ HasMark text := by
  rw [unmark, removeMarks_eq_self_iff isMark_of_mem_fenceMarks]
  constructor
  · exact fun absent => absent "```" (by decide)
  · intro absent mark member present
    have inEach : ∀ mark ∈ fenceMarks, HasMark mark.toList := by
      unfold HasMark
      decide
    exact absent ((inEach mark member).trans present)

end RowPlan.Proposal
