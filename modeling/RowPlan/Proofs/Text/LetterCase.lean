import RowPlan.Text.LetterCase

/-!
# Lower case is reached in one pass

A text in lower case stays as it is when it is lowered again. What has to be seen is that no image
of the lower-case map is changed by the map, which is a fact about its tables: the codes that are
changed and the codes of the images are collected as the bits of two numbers, and these have no bit
in common. The rule for the capital sigma gives one of two small letters, which are among the images
as well.
-/

namespace RowPlan.Text

/-! ## Sets of codes as bits -/

/-- The codes `first`, `first + stride`, …, `count` of them, as bits. -/
def stepBits (first stride : Nat) : Nat → Nat
  | 0 => 0
  | count + 1 => stepBits first stride count ||| 1 <<< (first + count * stride)

/-- The codes that some runs change. -/
def changedBits (runs : List ShiftRun) : Nat :=
  runs.foldr (fun run bits => stepBits run.first run.stride run.count ||| bits) 0

/-- The codes of the images of some runs. -/
def imageBits (runs : List ShiftRun) : Nat :=
  runs.foldr (fun run bits => stepBits run.image run.stride run.count ||| bits) 0

theorem testBit_stepBits_iff (first stride count code : Nat) :
    (stepBits first stride count).testBit code = true ↔ ∃ k < count, code = first + k * stride := by
  induction count with
  | zero => simp [stepBits]
  | succ count fewer =>
      rw [stepBits, Nat.testBit_or, Bool.or_eq_true, fewer, Nat.one_shiftLeft,
        Nat.testBit_two_pow, decide_eq_true_iff]
      constructor
      · rintro (⟨k, below, same⟩ | last)
        · exact ⟨k, Nat.lt_succ_of_lt below, same⟩
        · exact ⟨count, Nat.lt_succ_self count, last.symm⟩
      · rintro ⟨k, below, same⟩
        rcases Nat.lt_succ_iff_lt_or_eq.1 below with earlier | rfl
        · exact Or.inl ⟨k, earlier, same⟩
        · exact Or.inr same.symm

/-- A union of sets has a code exactly when one of the sets has it. -/
theorem testBit_foldr_iff {α : Type} (bits : α → Nat) (items : List α) (code : Nat) :
    (items.foldr (fun item rest => bits item ||| rest) 0).testBit code = true ↔
      ∃ item ∈ items, (bits item).testBit code = true := by
  induction items with
  | nil => simp
  | cons item rest later => simp [later]

/-- A run has an image for a code when the code is one of its own; the image is as far on. -/
theorem ShiftRun.image?_eq_some
    {run : ShiftRun} {code image : Nat} (shifted : run.image? code = some image) :
    ∃ k < run.count, code = run.first + k * run.stride ∧ image = run.image + k * run.stride := by
  rw [image?] at shifted
  split at shifted
  · rename_i inRun
    rcases inRun with ⟨reached, onStep, below⟩
    have distance : (code - run.first) / run.stride * run.stride = code - run.first :=
      Nat.div_mul_cancel (Nat.dvd_of_mod_eq_zero onStep)
    refine ⟨(code - run.first) / run.stride, below, ?_, ?_⟩
    · omega
    · rw [distance]
      exact (Option.some.inj shifted).symm
  · cases shifted

/-! ## The lower-case map -/

/-- All changes to lower case as runs: the ASCII letters, the capital I with a dot, the capital
sigma, and those of a table. -/
def loweringRuns (table : List ShiftRun) : List ShiftRun :=
  ⟨0x41, 26, 1, 0x61⟩ :: ⟨0x130, 1, 1, 0x69⟩ :: ⟨0x3A3, 1, 1, 0x3C3⟩ :: table

/-- The same runs with the second images as runs of their own: the dot of a capital I that had one,
and the final sigma. -/
def resultRuns (table : List ShiftRun) : List ShiftRun :=
  ⟨0x130, 1, 1, 0x307⟩ :: ⟨0x3A3, 1, 1, 0x3C2⟩ :: loweringRuns table

theorem ShiftRun.readAll_ofList (text : List Char) :
    readAll (String.ofList text) =
      ((splitAtChar ';' text).map (hexWordsFrom none)).filterMap fun
        | [first, count, stride, image] => some ⟨first, count, stride, image⟩
        | _ => none :=
  congrArg
    (fun characters : List Char =>
      ((splitAtChar ';' characters).map (hexWordsFrom none)).filterMap _)
    String.toList_ofList

/-- What lower case produces with a table, it does not change. -/
def LowersOnce (table : List ShiftRun) : Prop :=
  changedBits (loweringRuns table) &&& imageBits (resultRuns table) = 0

instance (table : List ShiftRun) : Decidable (LowersOnce table) :=
  inferInstanceAs (Decidable (_ = _))

set_option maxRecDepth 100000 in
theorem lowersOnce_lowerRuns : LowersOnce lowerRuns := by
  unfold lowerRuns
  -- The characters of the table are taken out of the text before anything is evaluated.
  rw [show _ = _ from congrArg LowersOnce (ShiftRun.readAll_ofList _)]
  decide +kernel

theorem testBit_changedBits_iff (runs : List ShiftRun) (code : Nat) :
    (changedBits runs).testBit code = true ↔
      ∃ run ∈ runs, ∃ k < run.count, code = run.first + k * run.stride := by
  simp only [changedBits, testBit_foldr_iff, testBit_stepBits_iff]

theorem testBit_imageBits_iff (runs : List ShiftRun) (code : Nat) :
    (imageBits runs).testBit code = true ↔
      ∃ run ∈ runs, ∃ k < run.count, code = run.image + k * run.stride := by
  simp only [imageBits, testBit_foldr_iff, testBit_stepBits_iff]

/-- A character that is its own lower case wherever it stands. -/
def IsLowered (c : Char) : Prop := c ≠ capitalSigma ∧ lowerChar c = [c]

/-- The capital letters of ASCII have small ones 32 codes further on; all else is its own image. -/
theorem toLower_cases (c : Char) :
    (0x41 ≤ c.toNat ∧ c.toNat ≤ 0x5A ∧ c.toLower.toNat = c.toNat + 32) ∨
      (¬ (0x41 ≤ c.toNat ∧ c.toNat ≤ 0x5A) ∧ c.toLower = c) := by
  have range : (c.val ≥ 'A'.val ∧ c.val ≤ 'Z'.val) ↔ 0x41 ≤ c.toNat ∧ c.toNat ≤ 0x5A := by
    simp only [ge_iff_le, UInt32.le_iff_toNat_le]
    exact Iff.rfl
  by_cases capital : c.val ≥ 'A'.val ∧ c.val ≤ 'Z'.val
  · left
    have bounds := range.1 capital
    refine ⟨bounds.1, bounds.2, ?_⟩
    have small : c.toLower.val = c.val + ('a'.val - 'A'.val) :=
      congrArg Char.val (dif_pos capital)
    have sum : c.toLower.toNat = (c.val + 32).toNat := congrArg UInt32.toNat small
    rw [sum, UInt32.toNat_add]
    exact Nat.mod_eq_of_lt (by change c.toNat + 32 < _; omega)
  · right
    exact ⟨fun bounds => capital (range.2 bounds), dif_neg capital⟩

theorem ShiftRun.apply_eq_self
    {runs : List ShiftRun} {c : Char} (outside : ∀ run ∈ runs, run.image? c.toNat = none) :
    ShiftRun.apply runs c = c := by
  have nowhere : runs.findSome? (·.image? c.toNat) = none := List.findSome?_eq_none_iff.2 outside
  rw [apply, nowhere]

theorem isLowered_of_unchanged
    {c : Char} (unchanged : (changedBits (loweringRuns lowerRuns)).testBit c.toNat = false) :
    IsLowered c := by
  have outside (run : ShiftRun) (member : run ∈ loweringRuns lowerRuns) :
      run.image? c.toNat = none := by
    rw [Option.eq_none_iff_forall_ne_some]
    intro image shifted
    rcases ShiftRun.image?_eq_some shifted with ⟨k, below, same, _⟩
    have changed := (testBit_changedBits_iff _ _).2 ⟨run, member, k, below, same⟩
    rw [unchanged] at changed
    cases changed
  constructor
  · rintro rfl
    exact absurd (outside ⟨0x3A3, 1, 1, 0x3C3⟩ (by simp [loweringRuns])) (by decide)
  · rw [lowerChar]
    split
    · rcases toLower_cases c with ⟨lower, upper, _⟩ | ⟨_, same⟩
      · have letter := outside ⟨0x41, 26, 1, 0x61⟩ (by simp [loweringRuns])
        have near : (c.toNat - 0x41) / 1 < 26 := by omega
        rw [ShiftRun.image?, if_pos ⟨lower, Nat.mod_one _, near⟩] at letter
        cases letter
      · rw [same]
    · split
      · rename_i dotted
        have dotless := outside ⟨0x130, 1, 1, 0x69⟩ (by simp [loweringRuns])
        rw [dotted] at dotless
        cases dotless
      · rw [ShiftRun.apply_eq_self fun run member => outside run (by simp [loweringRuns, member])]

/-- What the map produces it does not change. -/
theorem isLowered_of_image
    {c : Char} (run : ShiftRun) (code : Nat) (member : run ∈ resultRuns lowerRuns)
    (shifted : run.image? code = some c.toNat) : IsLowered c := by
  rcases ShiftRun.image?_eq_some shifted with ⟨k, below, _, same⟩
  have image := (testBit_imageBits_iff _ _).2 ⟨run, member, k, below, same⟩
  have apart :
      (changedBits (loweringRuns lowerRuns) &&& imageBits (resultRuns lowerRuns)).testBit c.toNat =
        false := by
    rw [show _ &&& _ = 0 from lowersOnce_lowerRuns, Nat.zero_testBit]
  rw [Nat.testBit_and, image, Bool.and_true] at apart
  exact isLowered_of_unchanged apart

/-- The code of a character read off a number is that number, or no code at all. -/
theorem toNat_ofNat_cases (code : Nat) :
    (Char.ofNat code).toNat = code ∨ Char.ofNat code = '\x00' := by
  by_cases valid : code.isValidChar
  · left
    have made : Char.ofNat code = Char.ofNatAux code valid := dif_pos valid
    rw [made]
    rfl
  · exact Or.inr (dif_neg valid)

theorem isLowered_ofNat
    (run : ShiftRun) (code : Nat) {image : Nat} (member : run ∈ resultRuns lowerRuns)
    (shifted : run.image? code = some image) : IsLowered (Char.ofNat image) := by
  rcases toNat_ofNat_cases image with same | absent
  · rw [← same] at shifted
    exact isLowered_of_image run code member shifted
  · rw [absent]
    exact ⟨by decide, by decide⟩

theorem isLowered_of_mem_lowerChar
    {c d : Char} (other : c ≠ capitalSigma) (image : d ∈ lowerChar c) : IsLowered d := by
  by_cases unchanged : lowerChar c = [c]
  · rw [unchanged, List.mem_singleton] at image
    rw [image]
    exact ⟨other, unchanged⟩
  rw [lowerChar] at image unchanged
  split at image
  · -- An ASCII letter becomes a small one, the image of the first run.
    rename_i ascii
    rw [if_pos ascii] at unchanged
    rw [List.mem_singleton] at image
    subst image
    rcases toLower_cases c with ⟨lower, upper, small⟩ | ⟨_, same⟩
    · have near : (c.toNat - 0x41) / 1 < 26 := by omega
      have further : 0x61 + (c.toNat - 0x41) = c.toNat + 32 := by omega
      apply isLowered_of_image ⟨0x41, 26, 1, 0x61⟩ c.toNat
      · simp [resultRuns, loweringRuns]
      · rw [ShiftRun.image?, if_pos ⟨lower, Nat.mod_one _, near⟩, small, further]
    · exact absurd (by rw [same]) unchanged
  · rename_i beyond
    rw [if_neg beyond] at unchanged
    split at image
    · simp only [List.mem_cons, List.not_mem_nil, or_false] at image
      rcases image with rfl | rfl
      · exact ⟨by decide, by decide⟩
      · apply isLowered_ofNat ⟨0x130, 1, 1, 0x307⟩ 0x130
        · simp [resultRuns]
        · decide
    · rename_i dotless
      rw [if_neg dotless] at unchanged
      rw [List.mem_singleton] at image
      rw [image, ShiftRun.apply]
      rw [ShiftRun.apply] at unchanged
      cases found : lowerRuns.findSome? (·.image? c.toNat) with
      | none => exact absurd (by rw [found]) unchanged
      | some code =>
          rcases List.exists_of_findSome?_eq_some found with ⟨run, member, shifted⟩
          exact isLowered_ofNat run c.toNat (by simp [resultRuns, loweringRuns, member]) shifted

theorem isLowered_sigma (final : Bool) :
    IsLowered (if final then Char.ofNat 0x3C2 else Char.ofNat 0x3C3) := by
  cases final with
  | false =>
      apply isLowered_ofNat ⟨0x3A3, 1, 1, 0x3C3⟩ 0x3A3
      · simp [resultRuns, loweringRuns]
      · decide
  | true =>
      apply isLowered_ofNat ⟨0x3A3, 1, 1, 0x3C2⟩ 0x3A3
      · simp [resultRuns]
      · decide

/-! ## Whole texts -/

theorem isLowered_of_mem_lowerFrom
    {d : Char} (text : List Char) (afterCased : Bool) (image : d ∈ lowerFrom afterCased text) :
    IsLowered d := by
  induction text generalizing afterCased with
  | nil => cases image
  | cons c rest later =>
      rw [lowerFrom, List.mem_append] at image
      rcases image with here | there
      · split at here
        · rw [List.mem_singleton] at here
          rw [here]
          exact isLowered_sigma _
        · rename_i other
          exact isLowered_of_mem_lowerChar other here
      · exact later _ there

/-- A text of such characters is its own lower case, whatever stands before it. -/
theorem lowerFrom_eq_self
    (text : List Char) (afterCased : Bool) (lowered : ∀ c ∈ text, IsLowered c) :
    lowerFrom afterCased text = text := by
  induction text generalizing afterCased with
  | nil => rfl
  | cons c rest later =>
      have head := lowered c (List.mem_cons_self ..)
      have tail := later (if isSkipped c then afterCased else isCased c)
        (fun d member => lowered d (List.mem_cons_of_mem c member))
      rw [lowerFrom, if_neg head.1, head.2, tail]
      rfl

/-- A character that is its own lower case stays at the end of a text. -/
theorem lowerFrom_concat
    {c : Char} (lowered : IsLowered c) (text : List Char) (afterCased : Bool) :
    ∃ before, lowerFrom afterCased (text ++ [c]) = before ++ [c] := by
  induction text generalizing afterCased with
  | nil =>
      refine ⟨[], ?_⟩
      rw [List.nil_append, lowerFrom, if_neg lowered.1, lowered.2, lowerFrom]
      rfl
  | cons first rest later =>
      rcases later (if isSkipped first then afterCased else isCased first) with ⟨before, ends⟩
      rw [List.cons_append, lowerFrom, ends, ← List.append_assoc]
      exact ⟨_, rfl⟩

/-- The lower case of a text is in lower case. -/
theorem lower_lower (text : String) : lower (lower text) = lower text := by
  rw [lower, lower, String.toList_ofList]
  rw [lowerFrom_eq_self _ _ fun c member => isLowered_of_mem_lowerFrom _ _ member]

end RowPlan.Text
