import RowPlan.Files.Store
import RowPlan.Proofs.Pointer

/-!
# Where paths lead

The names of a path are gone through one after the other: a step up takes back the last name, and names
that stand for the directory itself change nothing. What a path does to every directory it starts from is
summed up by its route: so many levels up, and then down by some names. A path that is joined to a
directory goes on from the place of the directory, unless it is absolute.

A route leads below the directory it starts from exactly if the names it comes down by begin with those
that it took back, and go on.
-/

namespace RowPlan

/-! ## Pieces of a text -/

namespace Text

theorem splitAtChar_ne_nil (separator : Char) (text : List Char) : splitAtChar separator text ≠ [] := by
  cases text with
  | nil => exact List.cons_ne_nil _ _
  | cons c rest =>
      rw [splitAtChar]
      split
      · exact List.cons_ne_nil _ _
      · split <;> exact List.cons_ne_nil _ _

theorem splitAtChar_cons_of_ne
    {separator c : Char} (other : c ≠ separator) {rest piece : List Char} {pieces : List (List Char)}
    (cut : splitAtChar separator rest = piece :: pieces) :
    splitAtChar separator (c :: rest) = (c :: piece) :: pieces := by
  rw [splitAtChar, if_neg other, cut]

/-- A text is cut at a separator in it whatever stands on both sides. -/
theorem splitAtChar_append_separator (separator : Char) (before after : List Char) :
    splitAtChar separator (before ++ separator :: after) =
      splitAtChar separator before ++ splitAtChar separator after := by
  induction before with
  | nil => simp [splitAtChar]
  | cons c rest later =>
      rw [List.cons_append]
      by_cases isSeparator : c = separator
      · rw [splitAtChar, if_pos isSeparator, later, splitAtChar, if_pos isSeparator]
        rfl
      · cases cut : splitAtChar separator rest with
        | nil => exact absurd cut (splitAtChar_ne_nil separator rest)
        | cons piece pieces =>
            rw [cut] at later
            rw [splitAtChar_cons_of_ne isSeparator later, splitAtChar_cons_of_ne isSeparator cut]
            rfl

/-- A character at the end that is no separator ends the last piece. -/
theorem exists_splitAtChar_concat
    {separator c : Char} (other : c ≠ separator) (text : List Char) :
    ∃ pieces piece, splitAtChar separator (text ++ [c]) = pieces ++ [piece ++ [c]] := by
  induction text with
  | nil => exact ⟨[], [], splitAtChar_of_not_mem (by simpa using other.symm)⟩
  | cons first rest later =>
      rcases later with ⟨pieces, piece, cut⟩
      rw [List.cons_append]
      by_cases isSeparator : first = separator
      · refine ⟨[] :: pieces, piece, ?_⟩
        rw [splitAtChar, if_pos isSeparator, cut]
        rfl
      · cases pieces with
        | nil => exact ⟨[], first :: piece, splitAtChar_cons_of_ne isSeparator cut⟩
        | cons opening others =>
            exact ⟨(first :: opening) :: others, piece, splitAtChar_cons_of_ne isSeparator cut⟩

end Text

namespace Files

/-! ## Going through names -/

/-- The place that a name leads to from a directory. -/
def enter (place : Place) (name : String) : Place :=
  if name = "" ∨ name = "." then place
  else if name = ".." then place.dropLast
  else place ++ [name]

/-- The place that names lead to from a directory, one after the other. -/
def reach (place : Place) (through : List String) : Place := through.foldl enter place

/-- A name of something in a directory. -/
def LeadsDown (name : String) : Prop := name ≠ "" ∧ name ≠ "." ∧ name ≠ ".."

instance (name : String) : Decidable (LeadsDown name) :=
  inferInstanceAs (Decidable (_ ∧ _ ∧ _))

theorem enter_of_leadsDown {name : String} (down : LeadsDown name) (place : Place) :
    enter place name = place ++ [name] := by
  rw [enter, if_neg (not_or.2 ⟨down.1, down.2.1⟩), if_neg down.2.2]

theorem reach_cons (place : Place) (name : String) (rest : List String) :
    reach place (name :: rest) = reach (enter place name) rest := rfl

theorem reach_append (place : Place) (before after : List String) :
    reach place (before ++ after) = reach (reach place before) after := List.foldl_append

/-- Empty names lead nowhere else. -/
theorem reach_filter (place : Place) (through : List String) :
    reach place (through.filter (!·.isEmpty)) = reach place through := by
  induction through generalizing place with
  | nil => rfl
  | cons name rest later =>
      by_cases empty : name = ""
      · subst empty
        exact later place
      · rw [List.filter_cons_of_pos (by simpa using empty), reach_cons, reach_cons, later]

/-- The place that a path leads to, seen from the working directory. -/
def Store.placeOf (store : Store) (path : String) : Place := reach (store.start path) (names path)

/-- A path whose last name is the name of something. -/
def EndsDown (path : String) : Prop :=
  ∃ through last, names path = through ++ [last] ∧ LeadsDown last

/-- A path ends in the name of something if it ends neither in a slash nor in a dot. -/
theorem endsDown_of_concat
    {path : String} {before : List Char} {last : Char} (text : path.toList = before ++ [last])
    (notSlash : last ≠ '/') (notDot : last ≠ '.') :
    EndsDown path := by
  rcases Text.exists_splitAtChar_concat notSlash before with ⟨pieces, piece, cut⟩
  refine ⟨pieces.map String.ofList, String.ofList (piece ++ [last]), ?_, ?_⟩
  · rw [names, text, cut, List.map_append, List.map_singleton]
  · have ends {name : String} (same : String.ofList (piece ++ [last]) = name) :
        name.toList.getLast? = some last := by
      rw [← same, String.toList_ofList, List.getLast?_concat]
    refine ⟨fun same => ?_, fun same => ?_, fun same => ?_⟩
    · cases ends same
    · exact notDot (Option.some.inj (ends same)).symm
    · exact notDot (Option.some.inj (ends same)).symm

/-! ## Joined paths -/

theorem names_eq_of_toList
    {path : String} {before after : List Char} (text : path.toList = before ++ '/' :: after) :
    names path = names (String.ofList before) ++ names (String.ofList after) := by
  rw [names, text, Text.splitAtChar_append_separator, List.map_append, names, names,
    String.toList_ofList, String.toList_ofList]

/-- The names of a joined path are those of the directory, but for an empty one at its end, and those
that come after it. -/
theorem names_joinPath
    {directory file : String} (given : directory ≠ "") (relative : isAbsolute file = false) :
    ∃ before, names (joinPath directory file) = before ++ names file ∧
      before.filter (!·.isEmpty) = (names directory).filter (!·.isEmpty) := by
  have notEmpty : directory.isEmpty = false := by simpa using given
  rw [joinPath, relative, notEmpty, Bool.false_or, if_neg Bool.false_ne_true]
  by_cases closed : (directory.toList.getLast? == some '/') = true
  · rcases List.getLast?_eq_some_iff.1 (eq_of_beq closed) with ⟨before, text⟩
    refine ⟨names (String.ofList before), ?_, ?_⟩
    · rw [if_pos closed]
      have joined : (directory ++ file).toList = before ++ '/' :: file.toList := by
        rw [String.toList_append, text, List.append_assoc, List.singleton_append]
      rw [names_eq_of_toList joined, String.ofList_toList]
    · rw [names_eq_of_toList text, List.filter_append]
      exact (List.append_nil _).symm
  · refine ⟨names directory, ?_, rfl⟩
    rw [if_neg closed]
    have joined : (directory ++ "/" ++ file).toList = directory.toList ++ '/' :: file.toList := by
      rw [String.toList_append, String.toList_append, List.append_assoc]
      rfl
    rw [names_eq_of_toList joined, String.ofList_toList, String.ofList_toList]

theorem start_joinPath
    {directory file : String} (given : directory ≠ "") (relative : isAbsolute file = false)
    (store : Store) :
    store.start (joinPath directory file) = store.start directory := by
  have sameHead (rest : String) : isAbsolute (directory ++ rest) = isAbsolute directory := by
    rw [isAbsolute, isAbsolute, String.toList_append]
    cases text : directory.toList with
    | nil => exact absurd (String.toList_eq_nil_iff.1 text) given
    | cons c others => rfl
  have sameStart : isAbsolute (joinPath directory file) = isAbsolute directory := by
    rw [joinPath, if_neg (by simp [relative])]
    split
    · exact sameHead file
    · rw [String.append_assoc]
      exact sameHead _
  rw [Store.start, Store.start, sameStart]

/-- A path that is joined to a directory leads on from there, unless it is absolute. -/
theorem placeOf_joinPath (store : Store) (directory file : String) :
    store.placeOf (joinPath directory file) =
      if isAbsolute file then plainNames file else reach (store.placeOf directory) (names file) := by
  cases absolute : isAbsolute file with
  | true =>
      rw [joinPath, if_pos absolute, Store.placeOf, Store.start, if_pos absolute, if_pos rfl]
      rfl
  | false =>
      rw [if_neg Bool.false_ne_true]
      by_cases given : directory = ""
      · subst given
        have same : joinPath "" file = file := by
          rw [joinPath, if_neg (by simp [absolute])]
          exact String.empty_append
        rw [same, Store.placeOf, Store.start, if_neg (by simp [absolute])]
        rfl
      · rcases names_joinPath given absolute with ⟨before, joined, sameNames⟩
        rw [Store.placeOf, joined, reach_append, start_joinPath given absolute, ← reach_filter _ before,
          sameNames, reach_filter]
        rfl

/-! ## Plain names -/

theorem names_of_plain {name : String} (plain : '/' ∉ name.toList) : names name = [name] := by
  rw [names, Text.splitAtChar_of_not_mem plain, List.map_singleton, String.ofList_toList]

theorem isAbsolute_of_plain {name : String} (plain : '/' ∉ name.toList) : isAbsolute name = false := by
  rw [isAbsolute, beq_eq_false_iff_ne]
  intro starts
  exact plain (List.mem_of_mem_head? starts)

theorem leadsDown_of_plain
    {name : String} (plain : '/' ∉ name.toList) (ends : EndsDown name) : LeadsDown name := by
  rcases ends with ⟨through, last, ends, down⟩
  have same : name = last := by
    simpa [names_of_plain plain] using congrArg List.getLast? ends
  exact same ▸ down

/-- A plain name is put right into the directory that it is joined to. -/
theorem placeOf_joinPath_of_plain
    {name : String} (plain : '/' ∉ name.toList) (down : LeadsDown name) (store : Store)
    (directory : String) :
    store.placeOf (joinPath directory name) = store.placeOf directory ++ [name] := by
  rw [placeOf_joinPath, if_neg (by simp [isAbsolute_of_plain plain]), names_of_plain plain,
    reach_cons, enter_of_leadsDown down]
  rfl

/-! ## Routes -/

/-- A way through the tree from any directory: up some levels, then down by some names. -/
structure Route where
  climbed : Nat
  down : List String
deriving DecidableEq

namespace Route

/-- A route continued by a name. -/
def enter (route : Route) (name : String) : Route :=
  if name = "" ∨ name = "." then route
  else if name = ".." then
    if route.down = [] then { route with climbed := route.climbed + 1 }
    else { route with down := route.down.dropLast }
  else { route with down := route.down ++ [name] }

/-- The route of a relative path. -/
def ofPath (path : String) : Route := (names path).foldl enter ⟨0, []⟩

/-- The place where a route ends that starts from a directory. There is nothing above the root. -/
def endFrom (route : Route) (directory : Place) : Place :=
  directory.take (directory.length - route.climbed) ++ route.down

theorem endFrom_enter (route : Route) (name : String) (directory : Place) :
    (route.enter name).endFrom directory = Files.enter (route.endFrom directory) name := by
  rw [enter, Files.enter]
  split
  · rfl
  · split
    · split
      · rename_i straight
        rw [endFrom, endFrom, straight, List.append_nil, List.append_nil, List.dropLast_eq_take,
          List.take_take, List.length_take]
        dsimp only
        congr 1
        omega
      · rename_i turned
        rw [endFrom, endFrom, List.dropLast_append_of_ne_nil turned]
    · exact (List.append_assoc _ _ _).symm

theorem endFrom_foldl (route : Route) (through : List String) (directory : Place) :
    (through.foldl enter route).endFrom directory = reach (route.endFrom directory) through := by
  induction through generalizing route with
  | nil => rfl
  | cons name rest later => rw [List.foldl_cons, later, endFrom_enter, reach_cons]

/-- The names of a path lead where its route ends. -/
theorem reach_eq_endFrom (directory : Place) (path : String) :
    reach directory (names path) = (ofPath path).endFrom directory := by
  have here : (⟨0, []⟩ : Route).endFrom directory = directory := by simp [endFrom]
  rw [ofPath, endFrom_foldl, here]

/-- A path that ends in the name of something comes down by this name last. -/
theorem down_ofPath_ne_nil {path : String} (ends : EndsDown path) : (ofPath path).down ≠ [] := by
  rcases ends with ⟨through, last, ends, down⟩
  rw [ofPath, ends, List.foldl_append, List.foldl_cons, List.foldl_nil, enter,
    if_neg (not_or.2 ⟨down.1, down.2.1⟩), if_neg down.2.2]
  exact List.append_ne_nil_of_right_ne_nil _ (List.cons_ne_nil _ _)

end Route

/-! ## Below a directory -/

/-- A place is in a directory, or in a directory below it. -/
def Below (directory place : Place) : Prop := directory <+: place ∧ directory ≠ place

instance (directory place : Place) : Decidable (Below directory place) :=
  inferInstanceAs (Decidable (_ ∧ _))

theorem below_append_iff (before directory place : Place) :
    Below (before ++ directory) (before ++ place) ↔ Below directory place := by
  rw [Below, Below, List.prefix_append_right_inj, Ne, List.append_cancel_left_eq]

theorem below_nil_iff (place : Place) : Below [] place ↔ place ≠ [] := by
  rw [Below, and_iff_right List.nil_prefix, ne_comm]

/-- The names of a directory that a route takes back. -/
def Route.takenBack (route : Route) (directory : Place) : Place :=
  directory.drop (directory.length - route.climbed)

/-- A route ends below the directory it starts from exactly if it comes back by the names that it took
back, and goes on. -/
theorem Route.below_endFrom_iff (route : Route) (directory : Place) :
    Below directory (route.endFrom directory) ↔ Below (route.takenBack directory) route.down := by
  have parts :
      directory.take (directory.length - route.climbed) ++ route.takenBack directory = directory :=
    List.take_append_drop _ _
  calc
    Below directory (route.endFrom directory) ↔
        Below (directory.take (directory.length - route.climbed) ++ route.takenBack directory)
          (directory.take (directory.length - route.climbed) ++ route.down) := by
      rw [parts, endFrom]
    _ ↔ Below (route.takenBack directory) route.down := below_append_iff _ _ _

/-- A route that does not climb takes nothing back. -/
theorem Route.takenBack_of_climbed_eq_zero
    {route : Route} (straight : route.climbed = 0) (directory : Place) :
    route.takenBack directory = [] := by
  rw [takenBack, straight, Nat.sub_zero, List.drop_length]

/-- A path that is joined to a directory leads below it: an absolute one by itself, and another one by its
route. -/
def StaysIn (directory : Place) (path : String) : Prop :=
  (isAbsolute path = true → Below directory (plainNames path)) ∧
    (isAbsolute path = false →
      Below ((Route.ofPath path).takenBack directory) (Route.ofPath path).down)

instance (directory : Place) (path : String) : Decidable (StaysIn directory path) :=
  inferInstanceAs (Decidable ((_ → _) ∧ (_ → _)))

theorem below_placeOf_joinPath_iff (store : Store) (directory file : String) :
    Below (store.placeOf directory) (store.placeOf (joinPath directory file)) ↔
      StaysIn (store.placeOf directory) file := by
  rw [placeOf_joinPath, StaysIn]
  cases isAbsolute file with
  | true => simp
  | false => simp [Route.reach_eq_endFrom, Route.below_endFrom_iff]

/-- A relative path that never climbs out, and ends in the name of something, stays in every directory. -/
theorem staysIn_of_straight
    {path : String} (relative : isAbsolute path = false)
    (straight : (Route.ofPath path).climbed = 0) (ends : EndsDown path) (directory : Place) :
    StaysIn directory path := by
  refine ⟨fun absolute => absurd (relative.symm.trans absolute) Bool.false_ne_true, fun _ => ?_⟩
  rw [Route.takenBack_of_climbed_eq_zero straight, below_nil_iff]
  exact Route.down_ofPath_ne_nil ends

end Files

end RowPlan
