import RowPlan.Text.Folding
import Mathlib.Data.List.Basic

/-!
# Folding leaves something

Case folding gives every character an image of at least one character, so that only the empty text folds
to the empty text. That no image in the table of longer images is empty is a fact about the table. A text
that starts with an ASCII character does not fold to the empty text either when its accents are dropped.
-/

namespace RowPlan.Text

theorem readExpansions_ofList (text : List Char) :
    readExpansions (String.ofList text) =
      ((splitAtChar ';' text).map (hexWordsFrom none)).filterMap fun
        | code :: image => some (code, image.map Char.ofNat)
        | [] => none :=
  congrArg
    (fun characters : List Char =>
      ((splitAtChar ';' characters).map (hexWordsFrom none)).filterMap _)
    String.toList_ofList

/-- No image of a table is empty. -/
def HasImages (table : List (Nat × List Char)) : Prop :=
  ∀ entry ∈ table, entry.2 ≠ []

instance (table : List (Nat × List Char)) : Decidable (HasImages table) :=
  inferInstanceAs (Decidable (∀ _ ∈ _, _))

set_option maxRecDepth 100000 in
theorem hasImages_caseFoldExpansions : HasImages caseFoldExpansions := by
  unfold caseFoldExpansions
  -- The characters of the table are taken out of the text before anything is evaluated.
  rw [show _ = _ from congrArg HasImages (readExpansions_ofList _)]
  decide +kernel

theorem caseFoldChar_ne_nil (c : Char) : caseFoldChar c ≠ [] := by
  unfold caseFoldChar
  split
  · exact List.cons_ne_nil _ _
  · cases found : caseFoldExpansions.lookup c.toNat with
    | none => exact List.cons_ne_nil _ _
    | some image =>
        rcases List.lookup_eq_some_iff.1 found with ⟨before, after, listed, _⟩
        apply hasImages_caseFoldExpansions (c.toNat, image)
        simp [listed]

/-- Only the empty text folds to the empty text. -/
theorem caseFold_eq_empty_iff (text : String) : caseFold text = "" ↔ text = "" := by
  rw [caseFold, String.ofList_eq_empty_iff, List.flatMap_eq_nil_iff, ← String.toList_eq_nil_iff,
    List.eq_nil_iff_forall_not_mem]
  apply forall_congr'
  intro c
  exact ⟨fun none member => caseFoldChar_ne_nil c (none member), fun absent member =>
    absurd member absent⟩

/-- Whether a text starts with an ASCII character. -/
def startsAscii (text : String) : Bool := text.toList.head?.any isAscii

theorem fold_ne_empty_of_startsAscii {text : String} (starts : startsAscii text = true) :
    fold text ≠ "" := by
  unfold startsAscii at starts
  rw [fold, Ne, String.ofList_eq_empty_iff]
  cases characters : text.toList with
  | nil =>
      rw [characters] at starts
      cases starts
  | cons c rest =>
      have ascii : isAscii c = true := by simpa [characters] using starts
      have folded : foldChar c = [c.toLower] := by
        simp only [foldChar, baseChars, caseFoldChar, ascii, if_true, List.flatMap_singleton]
      rw [List.flatMap_cons, folded]
      exact List.cons_ne_nil _ _

end RowPlan.Text
