import RowPlan.Field.Resolution

/-!
# Pointers name what they are made of

A pointer is made of segments, and split into segments again. Escaping keeps slashes out of the pieces
that slashes join, so the pieces come back, and unescaping undoes escaping. Only empty segments are
lost.
-/

namespace RowPlan

/-! ## Pieces -/

namespace Text

theorem splitAtChar_of_not_mem
    {separator : Char} {piece : List Char} (free : separator ∉ piece) :
    splitAtChar separator piece = [piece] := by
  induction piece with
  | nil => rfl
  | cons c rest later =>
      rw [List.mem_cons, not_or] at free
      rw [splitAtChar, if_neg (Ne.symm free.1), later free.2]

/-- A piece ends at the first separator. -/
theorem splitAtChar_append
    {separator : Char} {piece : List Char} (free : separator ∉ piece) (rest : List Char) :
    splitAtChar separator (piece ++ separator :: rest) = piece :: splitAtChar separator rest := by
  induction piece with
  | nil => rw [List.nil_append, splitAtChar, if_pos rfl]
  | cons c others later =>
      rw [List.mem_cons, not_or] at free
      rw [List.cons_append, splitAtChar, if_neg (Ne.symm free.1), later free.2]

/-- The characters of the pieces are those of the text that are no separators. -/
theorem mem_of_mem_splitAtChar
    {separator c : Char} {text piece : List Char} (isPiece : piece ∈ splitAtChar separator text)
    (member : c ∈ piece) :
    c ∈ text ∧ c ≠ separator := by
  induction text generalizing piece with
  | nil =>
      cases List.mem_singleton.1 isPiece
      cases member
  | cons first rest later =>
      rw [splitAtChar] at isPiece
      split at isPiece
      · rcases List.mem_cons.1 isPiece with rfl | isPiece
        · cases member
        · exact (later isPiece member).imp_left (List.mem_cons_of_mem _)
      · rename_i notSeparator
        split at isPiece
        · rename_i opened others pieces
          rcases List.mem_cons.1 isPiece with rfl | isPiece
          · rcases List.mem_cons.1 member with rfl | member
            · exact ⟨List.mem_cons_self, notSeparator⟩
            · exact (later (pieces ▸ List.mem_cons_self) member).imp_left (List.mem_cons_of_mem _)
          · exact (later (pieces ▸ List.mem_cons_of_mem _ isPiece) member).imp_left
              (List.mem_cons_of_mem _)
        · cases List.mem_singleton.1 isPiece
          cases List.mem_singleton.1 member
          exact ⟨List.mem_cons_self, notSeparator⟩

/-- No other characters are lost. -/
theorem exists_mem_splitAtChar
    {separator c : Char} {text : List Char} (member : c ∈ text) (kept : c ≠ separator) :
    ∃ piece ∈ splitAtChar separator text, c ∈ piece := by
  induction text with
  | nil => cases member
  | cons first rest later =>
      have inRest (isFirst : c ≠ first) := later ((List.mem_cons.1 member).resolve_left isFirst)
      rw [splitAtChar]
      split
      · rename_i isSeparator
        rcases inRest (isSeparator ▸ kept) with ⟨piece, isPiece, found⟩
        exact ⟨piece, List.mem_cons_of_mem _ isPiece, found⟩
      · by_cases isFirst : c = first
        · subst isFirst
          split
          · exact ⟨_, List.mem_cons_self, List.mem_cons_self⟩
          · exact ⟨_, List.mem_cons_self, List.mem_cons_self⟩
        · rcases inRest isFirst with ⟨piece, isPiece, found⟩
          split
          · rename_i opened others pieces
            rw [pieces] at isPiece
            rcases List.mem_cons.1 isPiece with rfl | isPiece
            · exact ⟨_, List.mem_cons_self, List.mem_cons_of_mem _ found⟩
            · exact ⟨piece, List.mem_cons_of_mem _ isPiece, found⟩
          · rename_i pieces
            rw [pieces] at isPiece
            cases isPiece

/-- Joined pieces come back if no separator is in one of them. -/
theorem splitAtChar_intercalate
    {separator : Char} {pieces : List (List Char)} (some : pieces ≠ [])
    (free : ∀ piece ∈ pieces, separator ∉ piece) :
    splitAtChar separator ([separator].intercalate pieces) = pieces := by
  induction pieces with
  | nil => exact absurd rfl some
  | cons piece rest later =>
      rw [List.forall_mem_cons] at free
      cases rest with
      | nil => simpa using splitAtChar_of_not_mem free.1
      | cons second others =>
          rw [List.intercalate_cons_cons, List.append_assoc, List.singleton_append,
            splitAtChar_append free.1, later (List.cons_ne_nil _ _) free.2]

end Text

namespace Pointer

/-! ## Escaping -/

theorem slash_not_mem_escapeChar (c : Char) : '/' ∉ escapeChar c := by
  rw [escapeChar]
  split
  · decide
  · split
    · decide
    · rename_i notSlash
      simpa using Ne.symm notSlash

theorem slash_not_mem_escapeSegment (segment : String) :
    '/' ∉ (escapeSegment segment).toList := by
  rw [escapeSegment, String.toList_ofList, List.mem_flatMap]
  rintro ⟨c, _, isSlash⟩
  exact slash_not_mem_escapeChar c isSlash

/-- Segments as they are between the two readings: slashes are read, tildes are not. -/
def escapeTilde (c : Char) : List Char := if c = '~' then ['~', '0'] else [c]

/-- Slashes as the second of two passes writes them. -/
def escapeSlash (c : Char) : List Char := if c = '/' then ['~', '1'] else [c]

/-- Escaping goes over a segment twice: the tildes come first, so that those of the second pass are left
as they are. -/
theorem escapeSegment_eq_passes (segment : String) :
    escapeSegment segment =
      String.ofList ((segment.toList.flatMap escapeTilde).flatMap escapeSlash) := by
  have passes (c : Char) : escapeChar c = (escapeTilde c).flatMap escapeSlash := by
    rw [escapeChar, escapeTilde]
    by_cases tilde : c = '~'
    · rw [if_pos tilde, if_pos tilde]
      rfl
    · rw [if_neg tilde, if_neg tilde, List.flatMap_singleton, escapeSlash]
  rw [escapeSegment, List.flatMap_assoc, funext passes]

theorem unescapeMark_cons
    {c : Char} (plain : c ≠ '~') (mark replacement : Char) (rest : List Char) :
    unescapeMark mark replacement (c :: rest) = c :: unescapeMark mark replacement rest := by
  rw [unescapeMark]
  rintro _ _ rfl
  exact absurd rfl plain

theorem unescapeMark_slash (text : List Char) :
    unescapeMark '1' '/' (text.flatMap escapeChar) = text.flatMap escapeTilde := by
  induction text with
  | nil => rfl
  | cons c rest later =>
      rw [List.flatMap_cons, List.flatMap_cons, ← later, escapeChar, escapeTilde]
      by_cases tilde : c = '~'
      · subst tilde
        rfl
      · by_cases slash : c = '/'
        · subst slash
          rfl
        · rw [if_neg tilde, if_neg slash, if_neg tilde]
          exact unescapeMark_cons tilde _ _ _

theorem unescapeMark_tilde (text : List Char) :
    unescapeMark '0' '~' (text.flatMap escapeTilde) = text := by
  induction text with
  | nil => rfl
  | cons c rest later =>
      rw [List.flatMap_cons, escapeTilde]
      by_cases tilde : c = '~'
      · subst tilde
        exact congrArg ('~' :: ·) later
      · rw [if_neg tilde, List.singleton_append, unescapeMark_cons tilde, later]

/-- Reading undoes escaping. -/
@[simp]
theorem unescapeSegment_escapeSegment (segment : String) :
    unescapeSegment (escapeSegment segment) = segment := by
  rw [unescapeSegment, escapeSegment, String.toList_ofList, unescapeMark_slash, unescapeMark_tilde,
    String.ofList_toList]

@[simp]
theorem escapeSegment_eq_empty_iff (segment : String) :
    escapeSegment segment = "" ↔ segment = "" := by
  constructor
  · intro empty
    rw [← unescapeSegment_escapeSegment segment, empty]
    rfl
  · rintro rfl
    rfl

theorem unescapeMark_eq_nil_iff
    {mark replacement : Char} {text : List Char} :
    unescapeMark mark replacement text = [] ↔ text = [] := by
  cases text with
  | nil => rfl
  | cons c rest =>
      refine iff_of_false ?_ (List.cons_ne_nil _ _)
      rw [unescapeMark.eq_def]
      split
      · contradiction
      · split <;> exact List.cons_ne_nil _ _
      · exact List.cons_ne_nil _ _

/-- A piece that says something is read as a segment that does. -/
theorem unescapeSegment_eq_empty_iff (segment : String) :
    unescapeSegment segment = "" ↔ segment = "" := by
  rw [unescapeSegment, String.ofList_eq_empty_iff, unescapeMark_eq_nil_iff,
    unescapeMark_eq_nil_iff, String.toList_eq_nil_iff]

/-! ## Segments -/

/-- The characters between the slashes of a pointer. -/
def pieces (segments : List String) : List (List Char) :=
  segments.map fun segment => (escapeSegment segment).toList

theorem slash_not_mem_pieces
    {segments : List String} {piece : List Char} (isPiece : piece ∈ pieces segments) :
    '/' ∉ piece := by
  rcases List.mem_map.1 isPiece with ⟨segment, _, rfl⟩
  exact slash_not_mem_escapeSegment segment

theorem toList_join
    {segments : List String} (some : segments ≠ []) :
    (join segments).toList = '/' :: ['/'].intercalate (pieces segments) := by
  rw [join]
  · rw [String.toList_append, String.toList_intercalate, List.map_map]
    rfl
  · exact some

/-- The pieces that say something are read as the segments that do. -/
theorem read_pieces (segments : List String) :
    (((pieces segments).filter (!·.isEmpty)).map fun piece =>
        unescapeSegment (String.ofList piece)) =
      segments.filter (!·.isEmpty) := by
  have sameEmptiness (segment : String) :
      (!(escapeSegment segment).toList.isEmpty) = !segment.isEmpty := by
    rw [Bool.eq_iff_iff]
    simp
  rw [pieces, List.filter_map, List.map_map]
  simp only [Function.comp_def, sameEmptiness, String.ofList_toList, unescapeSegment_escapeSegment,
    List.map_id']

theorem slashes_of_isRoot
    {segments : List String} (some : segments ≠ []) (root : isRoot (join segments) = true) :
    ∀ c ∈ ['/'].intercalate (pieces segments), c = '/' := by
  rw [isRoot, toList_join some, Bool.or_eq_true] at root
  rcases root with named | slashes
  · have text := congrArg String.toList (eq_of_beq named)
    rw [toList_join some] at text
    cases text
  · rw [List.all_cons, Bool.and_eq_true, List.all_eq_true] at slashes
    intro c member
    exact eq_of_beq (slashes.2 c member)

/-- A pointer splits into its segments, the empty ones left out. -/
@[simp]
theorem split_join (segments : List String) :
    split (join segments) = segments.filter (!·.isEmpty) := by
  cases segments with
  | nil => rfl
  | cons first rest =>
      have some : first :: rest ≠ [] := List.cons_ne_nil _ _
      generalize first :: rest = segments at some
      have pieced : Text.splitAtChar '/' (['/'].intercalate (pieces segments)) = pieces segments :=
        Text.splitAtChar_intercalate (by simpa [pieces] using some) fun _ => slash_not_mem_pieces
      rw [split, ← read_pieces]
      by_cases isRoot : isRoot (join segments) = true
      · -- Slashes alone are left if no segment says anything.
        rw [if_pos isRoot, eq_comm, List.map_eq_nil_iff, List.filter_eq_nil_iff, ← pieced]
        intro piece isPiece
        cases piece with
        | nil => decide
        | cons c _ =>
            rcases Text.mem_of_mem_splitAtChar isPiece List.mem_cons_self with ⟨member, notSlash⟩
            exact absurd (slashes_of_isRoot some isRoot c member) notSlash
      · rw [if_neg isRoot, toList_join some]
        change List.map _ (List.filter _
          (Text.splitAtChar '/' (['/'].intercalate (pieces segments)))) = _
        rw [pieced]

/-- A pointer tells its segments, the empty ones too, unless it has none. -/
theorem join_injective
    {first second : List String} (some : first ≠ []) (some' : second ≠ [])
    (same : join first = join second) :
    first = second := by
  have pieced {segments : List String} (some : segments ≠ []) :
      Text.splitAtChar '/' (['/'].intercalate (pieces segments)) = pieces segments :=
    Text.splitAtChar_intercalate (by simpa [pieces] using some) fun _ => slash_not_mem_pieces
  have text := congrArg String.toList same
  rw [toList_join some, toList_join some', List.cons.injEq] at text
  have samePieces : pieces first = pieces second := by
    rw [← pieced some, ← pieced some', text.2]
  refine (List.map_inj_right fun segment segment' escaped => ?_).1 samePieces
  rw [← unescapeSegment_escapeSegment segment, String.toList_inj.1 escaped,
    unescapeSegment_escapeSegment]

theorem ne_empty_of_mem_split
    {path segment : String} (member : segment ∈ split path) : segment ≠ "" := by
  rw [split] at member
  split at member
  · cases member
  · rcases List.mem_map.1 member with ⟨piece, isPiece, rfl⟩
    have some : piece ≠ [] := by simpa using (List.mem_filter.1 isPiece).2
    rwa [Ne, unescapeSegment_eq_empty_iff, String.ofList_eq_empty_iff]

/-- The segments of a pointer make a pointer with the same segments. -/
@[simp]
theorem split_join_split (path : String) : split (join (split path)) = split path := by
  rw [split_join, List.filter_eq_self]
  intro segment member
  simpa using ne_empty_of_mem_split member

/-- Only a pointer to the whole document has no segments. -/
theorem split_eq_nil_iff (path : String) : split path = [] ↔ isRoot path = true := by
  constructor
  · intro none
    refine Decidable.byContradiction fun notRoot => ?_
    rw [split, if_neg notRoot, List.map_eq_nil_iff, List.filter_eq_nil_iff] at none
    rw [isRoot, Bool.or_eq_true, not_or, List.all_eq_true] at notRoot
    obtain ⟨c, member, notSlash⟩ : ∃ c ∈ path.toList, c ≠ '/' := by simpa using notRoot.2
    have apart {body : List Char} (inBody : c ∈ body) :
        ¬ ∀ piece ∈ Text.splitAtChar '/' body, ¬(!piece.isEmpty) = true := by
      intro none
      rcases Text.exists_mem_splitAtChar inBody notSlash with ⟨piece, isPiece, found⟩
      have nothing : piece = [] := by simpa using none piece isPiece
      rw [nothing] at found
      cases found
    refine apart ?_ none
    split
    · rename_i rest text
      rw [text] at member
      exact (List.mem_cons.1 member).resolve_left notSlash
    · exact member
  · intro root
    rw [split, if_pos root]

theorem split_join_singleton {segment : String} (given : segment ≠ "") :
    split (join [segment]) = [segment] := by
  rw [split_join]
  exact List.filter_cons_of_pos (by simpa using given)

/-- The last segment of a pointer to a field is its name. -/
theorem lastSegment_join_singleton {segment : String} (given : segment ≠ "") :
    lastSegment (join [segment]) = segment := by
  rw [lastSegment, split_join_singleton given]
  rfl

/--
Segments survive being written as a pointer, all but the empty ones. Escaping goes over a segment for the
tildes and then for the slashes, leaves no slash, and is undone by reading. Whatever a pointer looks like,
its segments make one with the same segments.
-/
theorem segments_survive_writing (segments : List String) (segment path : String) :
    split (join segments) = segments.filter (!·.isEmpty) ∧
      escapeSegment segment =
        String.ofList ((segment.toList.flatMap escapeTilde).flatMap escapeSlash) ∧
      unescapeSegment (escapeSegment segment) = segment ∧
      '/' ∉ (escapeSegment segment).toList ∧
      split (join (split path)) = split path :=
  ⟨split_join segments, escapeSegment_eq_passes segment, unescapeSegment_escapeSegment segment,
    slash_not_mem_escapeSegment segment, split_join_split path⟩

end Pointer

/-- A reference whose first segment is a field of the sample row stands for that field, with nothing to
say about it. -/
theorem Field.resolve_of_split
    {reference name : String} {inside : List String}
    (named : Pointer.split reference = name :: inside) {sample : Row} (isField : name ∈ sample.keys) :
    resolve reference sample = ⟨name, name, Pointer.join (name :: inside), none⟩ := by
  have matched : matchField? name sample.keys = some (name, none) :=
    if_pos (List.contains_iff_mem.2 isField)
  rw [resolve, named]
  dsimp only
  rw [matched]

/-- A pointer to a field of the sample row stands for that field. -/
theorem Field.resolve_join_singleton
    {name : String} (given : name ≠ "") {sample : Row} (isField : name ∈ sample.keys) :
    resolve (Pointer.join [name]) sample = ⟨name, name, Pointer.join [name], none⟩ :=
  resolve_of_split (Pointer.split_join_singleton given) isField

end RowPlan
