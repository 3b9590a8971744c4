import RowPlan.Proofs.Files.Routes
import RowPlan.Proofs.Outcome

/-!
# Which files can be written

A path can be followed if every name on the way is short enough and names a directory. A file can then
be written unless a directory is at its place, and only what is at this place changes. Making a directory
makes the way to it, and leaves the files alone; after it, every plain name that is not too long names a
file that can be written there.
-/

namespace RowPlan.Files

theorem not_leadsDown_iff (name : String) :
    ¬ LeadsDown name ↔ (name = "" ∨ name = ".") ∨ name = ".." := by
  rw [LeadsDown, or_assoc]
  tauto

namespace Store

/-! ## Following names -/

/-- All names that lead down are short enough and lead to directories. -/
def Opens (store : Store) (place : Place) (through : List String) : Prop :=
  ∀ before name, before ++ [name] <+: through → LeadsDown name →
    name.utf8ByteSize ≤ nameLimit ∧ store.isDirectoryAt (reach place (before ++ [name])) = true

theorem opens_nil (store : Store) (place : Place) : store.Opens place [] := by
  intro before name isPrefix
  exact absurd (List.prefix_nil.1 isPrefix) (List.append_ne_nil_of_right_ne_nil _ (List.cons_ne_nil _ _))

theorem opens_cons_iff (store : Store) (place : Place) (name : String) (rest : List String) :
    store.Opens place (name :: rest) ↔
      (LeadsDown name →
        name.utf8ByteSize ≤ nameLimit ∧ store.isDirectoryAt (enter place name) = true) ∧
      store.Opens (enter place name) rest := by
  constructor
  · intro opens
    refine ⟨opens [] name (List.cons_prefix_cons.2 ⟨rfl, List.nil_prefix⟩), ?_⟩
    intro before later isPrefix
    exact opens (name :: before) later (List.cons_prefix_cons.2 ⟨rfl, isPrefix⟩)
  · rintro ⟨first, opens⟩ before later isPrefix
    cases before with
    | nil =>
        cases (List.cons_prefix_cons.1 isPrefix).1
        exact first
    | cons opening before =>
        rcases List.cons_prefix_cons.1 isPrefix with ⟨rfl, restPrefix⟩
        exact opens before later restPrefix

/-- Empty names need nothing. -/
theorem opens_filter_iff (store : Store) (place : Place) (through : List String) :
    store.Opens place (through.filter (!·.isEmpty)) ↔ store.Opens place through := by
  induction through generalizing place with
  | nil => exact Iff.rfl
  | cons name rest later =>
      by_cases empty : name = ""
      · subst empty
        have notDown : ¬ LeadsDown "" := fun down => down.1 rfl
        rw [opens_cons_iff, and_iff_right fun down => absurd down notDown]
        exact later place
      · rw [List.filter_cons_of_pos (by simpa using empty), opens_cons_iff, opens_cons_iff, later]

section Walk

variable {store : Store} {path name : String} {place reached : Place} {rest : List String}

/-- Names of directories above, or of the same directory, are always followed. -/
theorem walk_of_not_leadsDown (notDown : ¬ LeadsDown name) :
    store.walk path place (name :: rest) = store.walk path (enter place name) rest := by
  rw [walk, enter]
  rcases (not_leadsDown_iff name).1 notDown with here | rfl
  · rw [if_pos here, if_pos here]
  · rfl

theorem walk_of_leadsDown (down : LeadsDown name) :
    store.walk path place (name :: rest) =
      if nameLimit < name.utf8ByteSize then .error (.nameTooLong path)
      else if rest.isEmpty || store.isDirectoryAt (enter place name) then
        store.walk path (enter place name) rest
      else if (store.contentAt? (enter place name)).isSome then .error (.notDirectory path)
      else .error (.notFound path) := by
  rw [walk, if_neg (not_or.2 ⟨down.1, down.2.1⟩), if_neg down.2.2, enter_of_leadsDown down]

theorem walk_singleton_eq_ok_iff :
    store.walk path place [name] = .ok reached ↔
      (LeadsDown name → name.utf8ByteSize ≤ nameLimit) ∧ reached = enter place name := by
  by_cases down : LeadsDown name
  · rw [walk_of_leadsDown down, List.isEmpty_nil, Bool.true_or, if_pos rfl, walk]
    by_cases long : nameLimit < name.utf8ByteSize
    · rw [if_pos long]
      refine iff_of_false nofun fun short => ?_
      exact absurd (short.1 down) (Nat.not_le.2 long)
    · rw [if_neg long, and_iff_right fun _ => Nat.not_lt.1 long, Except.ok.injEq, eq_comm]
  · rw [walk_of_not_leadsDown down, walk, and_iff_right fun isDown => absurd isDown down,
      Except.ok.injEq, eq_comm]

theorem walk_cons_eq_ok_iff (more : rest ≠ []) :
    store.walk path place (name :: rest) = .ok reached ↔
      (LeadsDown name →
        name.utf8ByteSize ≤ nameLimit ∧ store.isDirectoryAt (enter place name) = true) ∧
      store.walk path (enter place name) rest = .ok reached := by
  by_cases down : LeadsDown name
  · have someRest : rest.isEmpty = false := by simpa using more
    rw [walk_of_leadsDown down, someRest, Bool.false_or]
    by_cases long : nameLimit < name.utf8ByteSize
    · rw [if_pos long]
      refine iff_of_false nofun fun short => ?_
      exact absurd (short.1 down).1 (Nat.not_le.2 long)
    · rw [if_neg long]
      by_cases isDirectory : store.isDirectoryAt (enter place name) = true
      · rw [if_pos isDirectory, and_iff_right fun _ => ⟨Nat.not_lt.1 long, isDirectory⟩]
      · rw [if_neg isDirectory]
        refine iff_of_false ?_ fun opened => isDirectory (opened.1 down).2
        split <;> nofun
  · rw [walk_of_not_leadsDown down, and_iff_right fun isDown => absurd isDown down]

end Walk

/-- Names are followed to the place they lead to if those before the last one open the way. -/
theorem walk_concat_eq_ok_iff
    {store : Store} {path : String} {place reached : Place} {through : List String} {last : String} :
    store.walk path place (through ++ [last]) = .ok reached ↔
      store.Opens place through ∧ (LeadsDown last → last.utf8ByteSize ≤ nameLimit) ∧
        reached = reach place (through ++ [last]) := by
  induction through generalizing place with
  | nil =>
      rw [List.nil_append, walk_singleton_eq_ok_iff, and_iff_right (opens_nil store place)]
      rfl
  | cons name rest later =>
      rw [List.cons_append,
        walk_cons_eq_ok_iff (List.append_ne_nil_of_right_ne_nil rest (List.cons_ne_nil last [])),
        later, opens_cons_iff, and_assoc, reach_cons]

/-! ## Writing a file -/

end Store

/-- A text that can be used as a path. -/
structure Spellable (path : String) : Prop where
  given : path ≠ ""
  noNull : Char.ofNat 0 ∉ path.toList
  short : path.utf8ByteSize ≤ pathLimit

namespace Store

/-- A path leads to a place where a file can be. -/
structure Writable (store : Store) (path : String) : Prop where
  spellable : Spellable path
  opens : store.Opens (store.start path) (names path).dropLast
  short : ∀ last ∈ (names path).getLast?, LeadsDown last → last.utf8ByteSize ≤ nameLimit
  notDirectory : store.isDirectoryAt (store.placeOf path) = false

/-- A tree differs from an earlier one in the file at one place alone, which has some content now. -/
structure Puts (store written : Store) (place : Place) (content : String) : Prop where
  here : written.contentAt? place = some content
  elsewhere : ∀ other, other ≠ place → written.contentAt? other = store.contentAt? other

theorem locate_eq_ok_iff {store : Store} {path : String} {place : Place} :
    store.locate path = .ok place ↔
      Spellable path ∧ store.Opens (store.start path) (names path).dropLast ∧
        (∀ last ∈ (names path).getLast?, LeadsDown last → last.utf8ByteSize ≤ nameLimit) ∧
        place = store.placeOf path := by
  have someName : names path ≠ [] := by
    rw [names, Ne, List.map_eq_nil_iff]
    exact Text.splitAtChar_ne_nil _ _
  rcases List.eq_nil_or_concat (names path) with none | ⟨through, last, parts⟩
  · exact absurd none someName
  · rw [List.concat_eq_append] at parts
    rw [locate, placeOf, parts, List.dropLast_concat, List.getLast?_concat]
    by_cases null : Char.ofNat 0 ∈ path.toList
    · rw [if_pos (by simpa using null)]
      exact iff_of_false (by simp) fun found => found.1.noNull null
    · rw [if_neg (by simpa using null)]
      by_cases empty : path = ""
      · rw [if_pos (by simpa using empty)]
        exact iff_of_false (by simp) fun found => found.1.given empty
      · rw [if_neg (by simpa using empty)]
        by_cases long : pathLimit < path.utf8ByteSize
        · rw [if_pos long]
          exact iff_of_false (by simp) fun found => absurd found.1.short (Nat.not_le.2 long)
        · have spellable : Spellable path := ⟨empty, null, Nat.not_lt.1 long⟩
          rw [if_neg long, walk_concat_eq_ok_iff, and_iff_right spellable]
          simp

theorem lookup_filter_self (place : Place) (files : List (Place × String)) :
    (files.filter fun file => file.1 != place).lookup place = none := by
  rw [List.lookup_eq_none_iff]
  intro file member
  rw [bne_iff_ne]
  exact (bne_iff_ne.1 (List.mem_filter.1 member).2).symm

theorem lookup_filter_other
    {place other : Place} (different : other ≠ place) (files : List (Place × String)) :
    (files.filter fun file => file.1 != place).lookup other = files.lookup other := by
  induction files with
  | nil => rfl
  | cons file rest later =>
      rcases file with ⟨at', content⟩
      by_cases gone : at' = place
      · rw [List.filter_cons_of_neg (by simpa using gone), later, List.lookup_cons,
          beq_false_of_ne (gone ▸ different)]
      · rw [List.filter_cons_of_pos (by simpa using gone), List.lookup_cons, List.lookup_cons, later]

theorem write_eq_ok_iff {store written : Store} {path content : String} :
    store.write path content = .ok written ↔
      store.Writable path ∧
        written = { store with
          files := store.files.filter (fun file => file.1 != store.placeOf path) ++
            [(store.placeOf path, content)] } := by
  rw [write, Outcome.bind_eq_ok_iff]
  constructor
  · rintro ⟨place, located, done⟩
    rcases locate_eq_ok_iff.1 located with ⟨spellable, opens, short, rfl⟩
    cases isDirectory : store.isDirectoryAt (store.placeOf path) with
    | true =>
        rw [if_pos isDirectory] at done
        cases done
    | false =>
        rw [if_neg (Bool.not_eq_true _ ▸ isDirectory)] at done
        exact ⟨⟨spellable, opens, short, isDirectory⟩, (Except.ok.inj done).symm⟩
  · rintro ⟨⟨spellable, opens, short, notDirectory⟩, rfl⟩
    refine ⟨store.placeOf path, locate_eq_ok_iff.2 ⟨spellable, opens, short, rfl⟩, ?_⟩
    rw [if_neg (Bool.not_eq_true _ ▸ notDirectory)]

theorem write_succeeds_iff (store : Store) (path content : String) :
    (∃ written, store.write path content = .ok written) ↔ store.Writable path := by
  simp only [write_eq_ok_iff, exists_and_left, exists_eq, and_true]

theorem puts_of_write
    {store written : Store} {path content : String} (wrote : store.write path content = .ok written) :
    store.Puts written (store.placeOf path) content := by
  rcases write_eq_ok_iff.1 wrote with ⟨_, rfl⟩
  constructor
  · rw [contentAt?, List.lookup_append, lookup_filter_self, Option.none_or, List.lookup_cons_self]
  · intro other different
    rw [contentAt?, contentAt?, List.lookup_append, lookup_filter_other different, List.lookup_cons,
      beq_false_of_ne different, List.lookup_nil, Option.or_none]

/-! ## Making directories -/

/-- A later tree with the same files, and no directory lost. -/
structure Grows (store later : Store) : Prop where
  workingDirectory : later.workingDirectory = store.workingDirectory
  files : later.files = store.files
  directories : ∀ place, store.isDirectoryAt place = true → later.isDirectoryAt place = true

theorem Grows.refl (store : Store) : store.Grows store := ⟨rfl, rfl, fun _ => id⟩

theorem Grows.trans {first second third : Store} (before : first.Grows second)
    (after : second.Grows third) : first.Grows third where
  workingDirectory := after.workingDirectory.trans before.workingDirectory
  files := after.files.trans before.files
  directories place isDirectory := after.directories place (before.directories place isDirectory)

theorem grows_directory (store : Store) (place : Place) :
    store.Grows { store with directories := store.directories ++ [place] } where
  workingDirectory := rfl
  files := rfl
  directories other isDirectory := by
    rw [isDirectoryAt, Bool.or_eq_true, Bool.or_eq_true] at isDirectory ⊢
    rw [List.any_append, Bool.or_eq_true]
    exact isDirectory.imp_left (Or.imp_right Or.inl)

theorem isDirectoryAt_directory (store : Store) (place : Place) :
    isDirectoryAt { store with directories := store.directories ++ [place] } place = true := by
  simp [isDirectoryAt]

theorem makeFrom_of_not_leadsDown
    {store : Store} {shown name : String} {place : Place} {rest : List String}
    (notDown : ¬ LeadsDown name) :
    makeFrom store shown place (name :: rest) =
      makeFrom store (if shown.isEmpty then name else joinPath shown name) (enter place name)
        rest := by
  rw [makeFrom.eq_def, enter]
  dsimp only
  rcases (not_leadsDown_iff name).1 notDown with here | rfl
  · rw [if_pos here, if_pos here]
  · rfl

/-- A directory that is made is a new one, or there is one already. -/
theorem makeFrom_of_leadsDown
    {store prepared : Store} {shown name : String} {place : Place} {rest : List String}
    (down : LeadsDown name) (made : makeFrom store shown place (name :: rest) = .ok prepared) :
    name.utf8ByteSize ≤ nameLimit ∧
      ∃ store' reached, store.Grows store' ∧ store'.isDirectoryAt (enter place name) = true ∧
        makeFrom store' reached (enter place name) rest = .ok prepared := by
  rw [makeFrom.eq_def] at made
  dsimp only at made
  rw [if_neg (not_or.2 ⟨down.1, down.2.1⟩), if_neg down.2.2] at made
  generalize (if shown.isEmpty then name else joinPath shown name) = reached at made
  rw [enter_of_leadsDown down]
  split at made
  · cases made
  · rename_i fits
    rw [Bool.or_eq_true, decide_eq_true_iff, decide_eq_true_iff, not_or, Nat.not_lt] at fits
    refine ⟨fits.1, ?_⟩
    split at made
    · rename_i isDirectory
      exact ⟨store, _, .refl store, isDirectory, made⟩
    · split at made
      · split at made
        · cases made
        · split at made <;> cases made
      · exact ⟨_, _, grows_directory store _, isDirectoryAt_directory store _, made⟩

/-- Directories that were made open the way, and are all that was made. -/
theorem opens_of_makeFrom
    {store prepared : Store} {shown : String} {place : Place} {through : List String}
    (made : makeFrom store shown place through = .ok prepared) :
    store.Grows prepared ∧ prepared.Opens place through := by
  induction through generalizing store shown place with
  | nil =>
      cases made
      exact ⟨.refl _, opens_nil _ _⟩
  | cons name rest later =>
      rw [opens_cons_iff]
      by_cases down : LeadsDown name
      · rcases makeFrom_of_leadsDown down made with ⟨short, store', reached, before, isDirectory, made⟩
        rcases later made with ⟨after, opens⟩
        exact ⟨before.trans after, fun _ => ⟨short, after.directories _ isDirectory⟩, opens⟩
      · rw [makeFrom_of_not_leadsDown down] at made
        rw [and_iff_right fun isDown => absurd isDown down]
        exact later made

theorem opens_of_makeDirectories
    {store prepared : Store} {path : String} (made : store.makeDirectories path = .ok prepared) :
    path ≠ "" ∧ store.Grows prepared ∧ prepared.Opens (store.start path) (names path) := by
  rw [makeDirectories] at made
  by_cases given : path = ""
  · rw [if_pos (by simpa using given)] at made
    cases made
  · rw [if_neg (by simpa using given)] at made
    rcases opens_of_makeFrom made with ⟨grows, opens⟩
    exact ⟨given, grows, (opens_filter_iff _ _ _).1 opens⟩

theorem Grows.start {store later : Store} (grows : store.Grows later) (path : String) :
    later.start path = store.start path := by
  rw [Store.start, Store.start, grows.workingDirectory]

theorem Grows.placeOf {store later : Store} (grows : store.Grows later) (path : String) :
    later.placeOf path = store.placeOf path := by
  rw [Store.placeOf, Store.placeOf, grows.start]

theorem Grows.puts
    {store later written : Store} {place : Place} {content : String} (grows : store.Grows later)
    (puts : later.Puts written place content) :
    store.Puts written place content where
  here := puts.here
  elsewhere other different := by
    rw [puts.elsewhere other different, contentAt?, contentAt?, grows.files]

/-! ## Plain names -/

/-- Once a directory is made, a plain name in it can be written to exactly if it is not too long, nor the
path that leads to it, and no directory has this name. -/
theorem writable_joinPath_iff
    {store prepared : Store} {directory name : String}
    (made : store.makeDirectories directory = .ok prepared) (plain : '/' ∉ name.toList)
    (down : LeadsDown name) :
    prepared.Writable (joinPath directory name) ↔
      Spellable (joinPath directory name) ∧ name.utf8ByteSize ≤ nameLimit ∧
        prepared.isDirectoryAt (store.placeOf directory ++ [name]) = false := by
  rcases opens_of_makeDirectories made with ⟨given, grows, opens⟩
  have relative := isAbsolute_of_plain plain
  rcases names_joinPath given relative with ⟨before, joined, sameNames⟩
  rw [names_of_plain plain] at joined
  have place : prepared.placeOf (joinPath directory name) = store.placeOf directory ++ [name] := by
    rw [placeOf_joinPath_of_plain plain down, grows.placeOf]
  have opensBefore : prepared.Opens (prepared.start (joinPath directory name)) before := by
    rw [start_joinPath given relative, grows.start, ← opens_filter_iff, sameNames, opens_filter_iff]
    exact opens
  constructor
  · rintro ⟨spellable, _, short, notDirectory⟩
    refine ⟨spellable, short name ?_ down, place ▸ notDirectory⟩
    rw [joined, List.getLast?_concat]
    rfl
  · rintro ⟨spellable, short, notDirectory⟩
    refine ⟨spellable, ?_, ?_, place ▸ notDirectory⟩
    · rw [joined, List.dropLast_concat]
      exact opensBefore
    · rw [joined, List.getLast?_concat]
      rintro last ⟨⟩ _
      exact short

end Store

end RowPlan.Files
