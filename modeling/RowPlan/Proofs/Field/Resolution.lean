import RowPlan.Proofs.Pointer
import RowPlan.Proofs.Text.Folding
import RowPlan.Proofs.Value.Row

/-!
# What a field reference stands for

A name matches a field of a row that is spelled in the same way, that differs from it in case only, or that
belongs with it to one of the alias groups, up to case and accents. A reference is resolved exactly when
its first segment matches a field; it then stands for such a field, without a warning exactly if the field
is spelled in the same way. The path of a resolution, resolved again, leads to the same place and leaves
nothing more to say. That two names match does not depend on which of them is the reference.
-/

namespace RowPlan.Field

/-! ## Names that match -/

/-- A name and a field belong to one alias group, up to case and accents. -/
def SharesGroup (name field : String) : Prop :=
  ∃ group ∈ aliasGroups,
    (∃ word ∈ group, Text.fold word = Text.fold name) ∧
      ∃ word ∈ group, Text.fold word = Text.fold field

/-- A name matches a field: exactly, up to case, or as an alias. -/
def Matches (name field : String) : Prop :=
  field = name ∨ Text.caseFold field = Text.caseFold name ∨ SharesGroup name field

theorem SharesGroup.symm {name field : String} (shares : SharesGroup name field) :
    SharesGroup field name := by
  rcases shares with ⟨group, listed, named, fielded⟩
  exact ⟨group, listed, fielded, named⟩

theorem Matches.symm {name field : String} (isMatch : Matches name field) : Matches field name := by
  rcases isMatch with same | sameCase | shares
  · exact .inl same.symm
  · exact .inr (.inl sameCase.symm)
  · exact .inr (.inr shares.symm)

/-- The aliases of a name are the words of the groups that it belongs to. -/
theorem mem_aliasesFor_iff {name word : String} :
    word ∈ aliasesFor name ↔
      ∃ group ∈ aliasGroups, (∃ other ∈ group, Text.fold other = Text.fold name) ∧ word ∈ group := by
  simp only [aliasesFor, foldedGroups, List.mem_eraseDups, List.mem_flatMap, List.mem_filter,
    List.mem_map, List.contains_iff_mem]
  constructor
  · rintro ⟨_, ⟨⟨group, listed, rfl⟩, belongs⟩, member⟩
    exact ⟨group, listed, List.mem_map.1 belongs, member⟩
  · rintro ⟨group, listed, belongs, member⟩
    exact ⟨_, ⟨⟨group, listed, rfl⟩, List.mem_map.2 belongs⟩, member⟩

theorem sharesGroup_iff {name field : String} :
    SharesGroup name field ↔ ∃ word ∈ aliasesFor name, Text.fold word = Text.fold field := by
  simp only [mem_aliasesFor_iff]
  constructor
  · rintro ⟨group, listed, belongs, word, member, same⟩
    exact ⟨word, ⟨group, listed, belongs, member⟩, same⟩
  · rintro ⟨word, ⟨group, listed, belongs, member⟩, same⟩
    exact ⟨group, listed, belongs, word, member, same⟩

theorem startsAscii_of_mem_aliasGroups :
    ∀ group ∈ aliasGroups, ∀ word ∈ group, Text.startsAscii word = true := by
  decide +kernel

/-- No name matches the field without a name, except for itself. -/
theorem Matches.ne_empty {name field : String} (isMatch : Matches name field) (given : name ≠ "") :
    field ≠ "" := by
  rintro rfl
  rcases isMatch with same | sameCase | ⟨group, listed, _, word, member, same⟩
  · exact given same.symm
  · have empty : Text.caseFold name = "" := sameCase.symm
    exact given ((Text.caseFold_eq_empty_iff name).1 empty)
  · have starts := startsAscii_of_mem_aliasGroups group listed word member
    exact Text.fold_ne_empty_of_startsAscii starts same

/-! ## The field for a name -/

variable {name field : String} {fields : List String}

theorem mem_of_matchCase?
    (found : matchCase? name fields = some field) :
    field ∈ fields ∧ Text.caseFold field = Text.caseFold name := by
  have same := List.find?_some found
  exact ⟨List.mem_of_find?_eq_some found, eq_of_beq same⟩

theorem mem_of_matchAlias?
    (found : matchAlias? name fields = some field) :
    field ∈ fields ∧ SharesGroup name field := by
  rcases List.exists_of_findSome?_eq_some found with ⟨word, isAlias, matched⟩
  have shares (same : Text.fold field = Text.fold word) : SharesGroup name field :=
    sharesGroup_iff.2 ⟨word, isAlias, same.symm⟩
  split at matched
  · rename_i isField
    cases matched
    exact ⟨List.contains_iff_mem.1 isField, shares rfl⟩
  · have same := List.find?_some matched
    exact ⟨List.mem_of_find?_eq_some matched, shares (eq_of_beq same)⟩

/-- The first word of the groups that some field belongs to yields a field. -/
theorem matchAlias?_ne_none (isField : field ∈ fields) (shares : SharesGroup name field) :
    matchAlias? name fields ≠ none := by
  rcases sharesGroup_iff.1 shares with ⟨word, isAlias, same⟩
  intro none
  have nothing := List.findSome?_eq_none_iff.1 none word isAlias
  split at nothing
  · cases nothing
  · have other := List.find?_eq_none.1 nothing field isField
    exact other (beq_of_eq same.symm)

/-- The field that is found matches the name, and there is no note exactly if it is the name itself. -/
theorem matchField?_some
    {note : Option Note} (found : matchField? name fields = some (field, note)) :
    field ∈ fields ∧ Matches name field ∧ (note = none ↔ name ∈ fields) ∧
      (name ∈ fields → field = name) := by
  unfold matchField? at found
  split at found
  · rename_i contained
    cases found
    have isField := List.contains_iff_mem.1 contained
    exact ⟨isField, .inl rfl, iff_of_true rfl isField, fun _ => rfl⟩
  · rename_i notContained
    have noField : name ∉ fields := fun isField => notContained (List.contains_iff_mem.2 isField)
    split at found
    · rename_i sameCase
      cases found
      rcases mem_of_matchCase? sameCase with ⟨isField, same⟩
      exact ⟨isField, .inr (.inl same), iff_of_false nofun noField, fun isName =>
        absurd isName noField⟩
    · rcases Option.map_eq_some_iff.1 found with ⟨_, aliased, same⟩
      cases same
      rcases mem_of_matchAlias? aliased with ⟨isField, shares⟩
      exact ⟨isField, .inr (.inr shares), iff_of_false nofun noField, fun isName =>
        absurd isName noField⟩

/-- No field is found exactly if none matches. -/
theorem matchField?_eq_none_iff :
    matchField? name fields = none ↔ ∀ field ∈ fields, ¬ Matches name field := by
  constructor
  · intro none field isField isMatch
    unfold matchField? at none
    split at none
    · cases none
    · rename_i notContained
      split at none
      · cases none
      · rename_i noCase
        rcases isMatch with rfl | sameCase | shares
        · exact notContained (List.contains_iff_mem.2 isField)
        · exact List.find?_eq_none.1 noCase field isField (beq_of_eq sameCase)
        · exact matchAlias?_ne_none isField shares (Option.map_eq_none_iff.1 none)
  · intro unmatched
    cases found : matchField? name fields with
    | none => rfl
    | some match? =>
        obtain ⟨field, note⟩ := match?
        rcases matchField?_some found with ⟨isField, isMatch, _⟩
        exact absurd isMatch (unmatched field isField)

/-! ## Resolutions -/

/-- The segments of the path decide what is read. -/
theorem read_eq_follow (row : Row) (resolution : Resolution) :
    read row resolution =
      if Pointer.split resolution.path = [] then none
      else Pointer.follow (.obj row) (Pointer.split resolution.path) := by
  simp only [read, Pointer.resolve, Pointer.split_eq_nil_iff]

/-- A note on a match never says that there was none. -/
theorem isResolved_of_match
    {name field : String} {fields : List String} {note : Option Note}
    (matched : matchField? name fields = some (field, note)) (reference resolved path : String) :
    Resolution.isResolved ⟨reference, resolved, path, note⟩ = true := by
  rw [matchField?] at matched
  split at matched
  · cases matched
    rfl
  · split at matched
    · cases matched
      rfl
    · rcases Option.map_eq_some_iff.1 matched with ⟨_, _, same⟩
      cases same
      rfl

section Resolve

variable {reference name : String} {inside : List String} {sample : Row}

/-- A reference whose first segment matches no field keeps its segments. -/
theorem resolve_of_unmatched
    (named : Pointer.split reference = name :: inside)
    (unmatched : ∀ field ∈ sample.keys, ¬ Matches name field) :
    resolve reference sample =
      ⟨name, name, Pointer.join (name :: inside), some (.notFound name sample.keys)⟩ := by
  simp only [resolve, named, matchField?_eq_none_iff.2 unmatched]

/-- Any other reference stands for a field that its first segment matches. -/
theorem exists_resolve_of_matched
    (named : Pointer.split reference = name :: inside) {field : String} (isField : field ∈ sample.keys)
    (isMatch : Matches name field) :
    ∃ found note,
      matchField? name sample.keys = some (found, note) ∧
        resolve reference sample = ⟨name, found, Pointer.join (found :: inside), note⟩ := by
  cases matched : matchField? name sample.keys with
  | none => exact absurd isMatch (matchField?_eq_none_iff.1 matched field isField)
  | some match? =>
      obtain ⟨found, note⟩ := match?
      exact ⟨found, note, rfl, by simp only [resolve, named, matched]⟩

/-- A reference is resolved exactly when its first segment matches a field of the sample row. -/
theorem isResolved_resolve_iff :
    (resolve reference sample).isResolved = true ↔
      ∃ name inside, Pointer.split reference = name :: inside ∧
        ∃ field ∈ sample.keys, Matches name field := by
  cases segments : Pointer.split reference with
  | nil =>
      have empty : resolve reference sample = ⟨reference, reference, reference, some (.empty reference)⟩ := by
        simp only [resolve, segments]
      rw [empty]
      exact iff_of_false Bool.false_ne_true (by rintro ⟨_, _, ⟨⟩, _⟩)
  | cons name inside =>
      by_cases matched : ∃ field ∈ sample.keys, Matches name field
      · rcases matched with ⟨field, isField, isMatch⟩
        rcases exists_resolve_of_matched segments isField isMatch with ⟨found, note, result, resolved⟩
        rw [resolved]
        exact iff_of_true (isResolved_of_match result _ _ _) ⟨name, inside, rfl, field, isField, isMatch⟩
      · have unmatched : ∀ field ∈ sample.keys, ¬ Matches name field := by simpa using matched
        rw [resolve_of_unmatched segments unmatched]
        refine iff_of_false Bool.false_ne_true ?_
        rintro ⟨_, _, ⟨⟩, other⟩
        exact matched other

end Resolve

section Unresolved

variable {reference : String} {sample : Row}

/-- A reference that matches no field is read as it is written. -/
theorem split_path_of_unresolved
    (unresolved : (resolve reference sample).isResolved = false) :
    Pointer.split (resolve reference sample).path = Pointer.split reference := by
  rw [resolve] at unresolved ⊢
  split at unresolved
  · rename_i empty
    rw [empty]
  · rename_i name inside named
    split at unresolved
    · rename_i matched
      rw [isResolved_of_match matched] at unresolved
      cases unresolved
    · change Pointer.split (Pointer.join (name :: inside)) = _
      rw [← named, Pointer.split_join_split]

theorem not_mem_keys_of_unresolved
    (unresolved : (resolve reference sample).isResolved = false) {name : String}
    {inside : List String} (named : Pointer.split reference = name :: inside) :
    name ∉ sample.keys := by
  intro isField
  rw [resolve_of_split named isField] at unresolved
  cases unresolved

/-- What is not resolved is absent from the row that it was resolved against. -/
theorem read_of_unresolved
    (unresolved : (resolve reference sample).isResolved = false) :
    read sample (resolve reference sample) = none := by
  rw [read_eq_follow, split_path_of_unresolved unresolved]
  cases named : Pointer.split reference with
  | nil => rfl
  | cons name inside =>
      have absent : sample.lookup name = none :=
        Row.find?_eq_none_iff.2 (not_mem_keys_of_unresolved unresolved named)
      rw [if_neg (List.cons_ne_nil _ _), Pointer.follow, absent]
      rfl

end Unresolved

/-- Nothing is resolved against a row without fields. -/
theorem resolve_nil
    {reference name : String} {inside : List String}
    (named : Pointer.split reference = name :: inside) :
    resolve reference [] =
      ⟨name, name, Pointer.join (name :: inside), some (.notFound name [])⟩ :=
  resolve_of_unmatched named nofun

/-- A pointer to a field reads that field. -/
theorem read_join_singleton
    {name : String} (given : name ≠ "") {row sample : Row} (isField : name ∈ sample.keys) :
    read row (resolve (Pointer.join [name]) sample) = row.find? name := by
  rw [resolve_join_singleton given isField, read_eq_follow, Pointer.split_join_singleton given,
    if_neg (List.cons_ne_nil _ _), Pointer.follow]
  exact Option.bind_fun_some (row.lookup name)

theorem readOrNull_join_singleton
    {name : String} (given : name ≠ "") {row sample : Row} (isField : name ∈ sample.keys) :
    readOrNull row (resolve (Pointer.join [name]) sample) = (row.find? name).getD .null := by
  rw [readOrNull, read_join_singleton given isField]

/-! ## Resolving again -/

section Again

variable {reference name : String} {inside : List String} {sample : Row}

/-- A field that the first segment matches takes its place in front of the other segments. -/
theorem split_join_of_matched
    (named : Pointer.split reference = name :: inside) {field : String} (isMatch : Matches name field) :
    Pointer.split (Pointer.join (field :: inside)) = field :: inside := by
  have given : name ≠ "" := Pointer.ne_empty_of_mem_split (named ▸ List.mem_cons_self)
  have allGiven : ∀ segment ∈ field :: inside, segment ≠ "" := by
    rw [List.forall_mem_cons]
    exact ⟨isMatch.ne_empty given, fun segment member =>
      Pointer.ne_empty_of_mem_split (named ▸ List.mem_cons_of_mem name member)⟩
  rw [Pointer.split_join, List.filter_eq_self]
  intro segment member
  simpa using allGiven segment member

/-- What is not resolved comes to the same when its path is resolved. -/
theorem resolve_path_of_unmatched
    (unmatched : ∀ name inside, Pointer.split reference = name :: inside →
      ∀ field ∈ sample.keys, ¬ Matches name field) :
    resolve (resolve reference sample).path sample = resolve reference sample := by
  cases named : Pointer.split reference with
  | nil => simp only [resolve, named]
  | cons name inside =>
      have resolved := resolve_of_unmatched named (unmatched name inside named)
      have sameSegments : Pointer.split (Pointer.join (name :: inside)) = name :: inside := by
        rw [← named, Pointer.split_join_split]
      rw [resolved]
      exact resolve_of_unmatched sameSegments (unmatched name inside named)

/-- The path of a resolution with a match leads to the field by its own name. -/
theorem resolve_path_of_matched
    (named : Pointer.split reference = name :: inside) {field : String} (isField : field ∈ sample.keys)
    (isMatch : Matches name field) :
    resolve (Pointer.join (field :: inside)) sample =
      ⟨field, field, Pointer.join (field :: inside), none⟩ :=
  resolve_of_split (split_join_of_matched named isMatch) isField

end Again

/-- A field of a row has a value. -/
theorem read_of_path_eq_join
    {field : String} {sample : Row} (given : field ≠ "") (isField : field ∈ sample.keys)
    {resolution : Resolution} (path : resolution.path = Pointer.join [field]) :
    ∃ value, sample.find? field = some value ∧ read sample resolution = some value := by
  obtain ⟨value, found⟩ := Option.ne_none_iff_exists'.1 (mt Row.find?_eq_none_iff.1 (not_not.2 isField))
  refine ⟨value, found, ?_⟩
  have there : sample.lookup field = some value := found
  rw [read_eq_follow, path, Pointer.split_join_singleton given, if_neg (List.cons_ne_nil _ _),
    Pointer.follow, there]
  rfl

theorem Resolution.warnings_eq_nil_iff (resolution : Resolution) :
    resolution.warnings = [] ↔ resolution.note = none := by
  rw [warnings, Option.toList_eq_nil_iff, Option.map_eq_none_iff]

section Result

variable {reference : String} {row : Row}

/-- A resolution that succeeds has a field of the row that matches the first segment. -/
theorem matches_of_isResolved (resolved : (resolve reference row).isResolved = true) :
    ∃ name inside field note, Pointer.split reference = name :: inside ∧
      matchField? name row.keys = some (field, note) ∧
      resolve reference row = ⟨name, field, Pointer.join (field :: inside), note⟩ := by
  rcases isResolved_resolve_iff.1 resolved with ⟨name, inside, named, key, isKey, isMatch⟩
  rcases exists_resolve_of_matched named isKey isMatch with ⟨field, note, found, result⟩
  exact ⟨name, inside, field, note, named, found, result⟩

/-- Resolving the path of a resolution that succeeds finds its field by name. -/
theorem resolve_path_of_isResolved (resolved : (resolve reference row).isResolved = true) :
    ∃ field,
      resolve (resolve reference row).path row =
        ⟨field, field, (resolve reference row).path, none⟩ := by
  rcases matches_of_isResolved resolved with ⟨name, inside, field, note, named, found, result⟩
  rcases matchField?_some found with ⟨isField, isMatch, _⟩
  rw [result]
  exact ⟨field, resolve_path_of_matched named isField isMatch⟩

theorem resolve_path_of_unresolved (unresolved : (resolve reference row).isResolved = false) :
    resolve (resolve reference row).path row = resolve reference row := by
  apply resolve_path_of_unmatched
  intro name inside named field isField isMatch
  have resolved := isResolved_resolve_iff.2 ⟨name, inside, named, field, isField, isMatch⟩
  cases resolved.symm.trans unresolved

end Result

/--
A reference is resolved against a row exactly when its first segment is a field of the row, differs from
one in case only, or shares an alias group with one. It then stands for a field that matches in one of
these ways, with no warning exactly if the match is exact, and a reference of one segment reads that
field. A reference that is not resolved reads as absent. The path of a resolution, resolved against the
same row, is the path of its resolution, and that one is resolved if the first one was, without a warning.
-/
theorem resolution_matches_and_stays (reference : String) (row : Row) :
    let resolution := resolve reference row
    let again := resolve resolution.path row
    (resolution.isResolved = true ↔
      ∃ name inside, Pointer.split reference = name :: inside ∧
        ∃ key ∈ row.keys,
          key = name ∨ Text.caseFold key = Text.caseFold name ∨ SharesGroup name key) ∧
    (resolution.isResolved = true →
      ∃ name inside, Pointer.split reference = name :: inside ∧
        resolution.resolved ∈ row.keys ∧ Matches name resolution.resolved ∧
        (resolution.warnings = [] ↔ name ∈ row.keys) ∧
        (name ∈ row.keys → resolution.resolved = name) ∧
        (inside = [] → ∃ value,
          row.find? resolution.resolved = some value ∧ read row resolution = some value)) ∧
    (resolution.isResolved = false → read row resolution = none) ∧
    again.path = resolution.path ∧ again.isResolved = resolution.isResolved ∧
    (resolution.isResolved = true → again.warnings = []) := by
  intro resolution again
  refine ⟨isResolved_resolve_iff, ?_, read_of_unresolved, ?_⟩
  · intro resolved
    rcases matches_of_isResolved resolved with ⟨name, inside, field, note, named, found, result⟩
    rcases matchField?_some found with ⟨isField, isMatch, noted, same⟩
    have given : name ≠ "" := Pointer.ne_empty_of_mem_split (named ▸ List.mem_cons_self)
    have result : resolution = ⟨name, field, Pointer.join (field :: inside), note⟩ := result
    rw [Resolution.warnings_eq_nil_iff, result]
    refine ⟨name, inside, named, isField, isMatch, noted, same, ?_⟩
    rintro rfl
    exact read_of_path_eq_join (isMatch.ne_empty given) isField rfl
  · cases state : resolution.isResolved with
    | true =>
        rcases resolve_path_of_isResolved state with ⟨field, result⟩
        have result : again = ⟨field, field, resolution.path, none⟩ := result
        rw [result]
        exact ⟨rfl, rfl, fun _ => rfl⟩
    | false =>
        have result : again = resolution := resolve_path_of_unresolved state
        rw [result]
        exact ⟨rfl, state, nofun⟩

theorem sharesGroup_price : SharesGroup "Preço" "VALOR" := by
  have small : Text.foldChar 'p' = Text.foldChar 'P' := by decide
  have lower : "preço".toList = ['p', 'r', 'e', 'ç', 'o'] := by decide +kernel
  have upper : "Preço".toList = ['P', 'r', 'e', 'ç', 'o'] := by decide +kernel
  refine ⟨["price", "preco", "preço", "precio", "valor"], by decide, ⟨"preço", by decide, ?_⟩,
    "valor", by decide, by decide +kernel⟩
  rw [Text.fold, Text.fold, lower, upper]
  simp only [List.flatMap_cons, small]

/-- An alias with an accent is found in another language and in capitals; the empty reference is not. -/
theorem resolution_matches_and_stays_price :
    let row : Row := [("VALOR", .ofNat 3)]
    (resolve "/Preço" row).isResolved = true ∧
      (resolve "/Preço" row).resolved = "VALOR" ∧
      read row (resolve "/Preço" row) = some (.ofNat 3) ∧
      (resolve "/Preço" row).warnings ≠ [] ∧
      (resolve (resolve "/Preço" row).path row).warnings = [] ∧
      (resolve "/" row).isResolved = false ∧
      read row (resolve "/" row) = none := by
  intro row
  have named : Pointer.split "/Preço" = ["Preço"] := by decide +kernel
  have unresolved : (resolve "/" row).isResolved = false := rfl
  rcases resolution_matches_and_stays "/Preço" row with ⟨resolvedIff, whenResolved, _, _, _, quiet⟩
  have resolved : (resolve "/Preço" row).isResolved = true :=
    resolvedIff.2 ⟨"Preço", [], named, "VALOR", by decide, .inr (.inr sharesGroup_price)⟩
  rcases whenResolved resolved with ⟨name, inside, named', isField, _, noted, _, readable⟩
  rcases List.cons.inj (named.symm.trans named') with ⟨rfl, rfl⟩
  have isValor : (resolve "/Preço" row).resolved = "VALOR" := List.mem_singleton.1 isField
  rcases readable rfl with ⟨value, found, value?⟩
  rw [isValor] at found
  cases found
  have noted : ¬ (resolve "/Preço" row).warnings = [] := fun quiet => absurd (noted.1 quiet) (by decide)
  exact ⟨resolved, isValor, value?, noted, quiet resolved, unresolved,
    (resolution_matches_and_stays "/" row).2.2.1 unresolved⟩

/-! ## Aliases work both ways -/

/-- Against a row of one field the name of a reference has to match that field. -/
theorem isResolved_join_singleton_iff
    {name : String} (given : name ≠ "") (field : String) (value : Value) :
    (resolve (Pointer.join [name]) [(field, value)]).isResolved = true ↔ Matches name field := by
  rw [isResolved_resolve_iff, Pointer.split_join_singleton given]
  constructor
  · rintro ⟨_, _, ⟨⟩, _, isField, isMatch⟩
    cases List.mem_singleton.1 isField
    exact isMatch
  · intro isMatch
    exact ⟨name, [], rfl, field, List.mem_singleton.2 rfl, isMatch⟩

/-- Aliasing is symmetric: one name is resolved against a row with the other as its only field exactly
when the other is resolved against a row with the one. -/
theorem aliasing_symmetric
    {name other : String} (given : name ≠ "") (otherGiven : other ≠ "") (value : Value) :
    (resolve (Pointer.join [name]) [(other, value)]).isResolved = true ↔
      (resolve (Pointer.join [other]) [(name, value)]).isResolved = true := by
  rw [isResolved_join_singleton_iff given, isResolved_join_singleton_iff otherGiven]
  exact ⟨Matches.symm, Matches.symm⟩

/-- The word that has the accent may be the reference or the field. -/
theorem aliasing_symmetric_price :
    "Preço" ≠ "" ∧ "VALOR" ≠ "" ∧
      (resolve (Pointer.join ["Preço"]) [("VALOR", .null)]).isResolved = true ∧
      (resolve (Pointer.join ["VALOR"]) [("Preço", .null)]).isResolved = true := by
  have given : "Preço" ≠ "" := by decide
  have otherGiven : "VALOR" ≠ "" := by decide
  have resolved : (resolve (Pointer.join ["Preço"]) [("VALOR", .null)]).isResolved = true :=
    (isResolved_join_singleton_iff given "VALOR" .null).2 (.inr (.inr sharesGroup_price))
  exact ⟨given, otherGiven, resolved, (aliasing_symmetric given otherGiven .null).1 resolved⟩

end RowPlan.Field
