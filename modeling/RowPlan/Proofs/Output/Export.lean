import RowPlan.Output.Export
import RowPlan.Proofs.Files.Writing
import RowPlan.Proofs.Output.CsvReading
import RowPlan.Proofs.Text.LetterCase

/-!
# Where exported files go

An exported file is put at the place that its name leads to from the directory, and nothing else changes.
The ending of its format makes the name end in the name of a file, but all that comes before the ending
is as it was given: so the file is in the directory exactly if the name, taken as a path, stays in it.
Every name without slashes does, and can be written once the directory is made, unless it is too long or
taken by a directory. The file has the whole table if every value in it can be written; otherwise the export
fails, and the file ends before the first value that cannot.
-/

namespace RowPlan

namespace Text

/-- Trimming only takes characters away. -/
theorem trimWhere_sublist (drop : Char → Bool) (text : List Char) :
    (trimWhere drop text).Sublist text := by
  rw [trimWhere, ← List.reverse_sublist, List.reverse_reverse]
  calc
    ((text.dropWhile drop).reverse.dropWhile drop).Sublist (text.dropWhile drop).reverse :=
      List.dropWhile_sublist drop
    (text.dropWhile drop).reverse.Sublist text.reverse :=
      (List.dropWhile_sublist drop).reverse

end Text

namespace Output

open Files
open Outcome (Succeeds)

/-! ## Names of exported files -/

/-- The name of a file before it gets the ending of its format. -/
def baseName (name : Option String) : String :=
  if (Text.trim (name.getD "")).isEmpty then defaultName else Text.trim (name.getD "")

/-- The ending of a file name for a format. -/
def ending (format : Format) : String := "." ++ Text.lower format.name

theorem fileName_eq (name : Option String) (format : Format) :
    fileName name format.name =
      if (ending format).toList.isSuffixOf (Text.lower (baseName name)).toList then baseName name
      else baseName name ++ ending format :=
  rfl

theorem exists_ending_concat (format : Format) :
    ∃ before last, (ending format).toList = before ++ [last] ∧ last ≠ '/' ∧ last ≠ '.' := by
  cases format with
  | csv => exact ⟨".cs".toList, 'v', by rfl, by decide, by decide⟩
  | json => exact ⟨".jso".toList, 'n', by rfl, by decide, by decide⟩

/-- The name of an exported file ends neither in a slash nor in a dot. -/
theorem exists_fileName_concat (name : Option String) (format : Format) :
    ∃ before last,
      (fileName name format.name).toList = before ++ [last] ∧ last ≠ '/' ∧ last ≠ '.' := by
  rcases exists_ending_concat format with ⟨start, final, ends, notSlash, notDot⟩
  rw [fileName_eq]
  split
  · rename_i hasEnding
    rcases List.isSuffixOf_iff_suffix.1 hasEnding with ⟨front, sameText⟩
    rw [ends, ← List.append_assoc, Text.lower, String.toList_ofList] at sameText
    rcases List.eq_nil_or_concat (baseName name).toList with none | ⟨before, last, text⟩
    · rw [none] at sameText
      exact absurd sameText (List.append_ne_nil_of_right_ne_nil _ (List.cons_ne_nil _ _))
    · rw [List.concat_eq_append] at text
      -- A last character that is its own lower case is the one that the ending has last.
      have apart {mark : Char} (lowered : Text.IsLowered mark) (other : final ≠ mark) :
          last ≠ mark := by
        rintro rfl
        rcases Text.lowerFrom_concat lowered before false with ⟨front', lowerText⟩
        rw [text, lowerText] at sameText
        exact other (List.cons.inj (List.append_inj_right' sameText rfl)).1
      exact ⟨before, last, text, apart ⟨by decide, by rfl⟩ notSlash,
        apart ⟨by decide, by rfl⟩ notDot⟩
  · refine ⟨(baseName name).toList ++ start, final, ?_, notSlash, notDot⟩
    rw [String.toList_append, ends, List.append_assoc]

/-- The name of an exported file, taken as a path, ends in the name of something. -/
theorem endsDown_fileName (name : Option String) (format : Format) :
    EndsDown (fileName name format.name) := by
  rcases exists_fileName_concat name format with ⟨before, last, text, notSlash, notDot⟩
  exact endsDown_of_concat text notSlash notDot

theorem slash_notMem_baseName {name : Option String} (plain : '/' ∉ (name.getD "").toList) :
    '/' ∉ (baseName name).toList := by
  rw [baseName]
  split
  · decide
  · rw [Text.trim, String.toList_ofList]
    exact fun member => plain ((Text.trimWhere_sublist _ _).subset member)

/-- The name of an exported file has no slash if the given name has none. -/
theorem slash_notMem_fileName
    {name : Option String} (plain : '/' ∉ (name.getD "").toList) (format : Format) :
    '/' ∉ (fileName name format.name).toList := by
  have plainEnding : '/' ∉ (ending format).toList := by cases format <;> decide
  rw [fileName_eq]
  split
  · exact slash_notMem_baseName plain
  · rw [String.toList_append, List.mem_append]
    exact not_or.2 ⟨slash_notMem_baseName plain, plainEnding⟩

/-! ## Contents of exported files -/

theorem ended_content_csv_iff (rows : List Row) :
    (content .csv rows).Ended ↔
      ∀ row ∈ rows, ∀ column value, row.find? column = some value → value.Writable :=
  (Draft.succeeds_toText_iff _).symm.trans Csv.succeeds_write_iff

theorem ended_content_json_iff (rows : List Row) :
    (content .json rows).Ended ↔ ∀ row ∈ rows, row.Writable := by
  rw [content, Json.ended_writeIndented_iff, Value.writable_arr_iff, List.forall_mem_map]
  rfl

/-- The content comes to its end if all rows can be written. -/
theorem ended_content_of_writable
    {rows : List Row} (format : Format) (writable : ∀ row ∈ rows, row.Writable) :
    (content format rows).Ended := by
  cases format with
  | json => exact (ended_content_json_iff rows).2 writable
  | csv =>
      refine (ended_content_csv_iff rows).2 fun row member column value found => ?_
      exact (Value.writable_obj_iff row).1 (writable row member) _ (mem_of_lookup_eq_some found)

/-! ## Exports -/

section Exporting

variable {formatName : Option String} {format : Format} {rows : List Row} {name : Option String}
  {directory : String} {store prepared : Store}

theorem write_of_makeDirectories
    (supported : Format.ofName formatName = .ok format)
    (made : store.makeDirectories directory = .ok prepared) :
    write rows formatName name directory store =
      writeFile format rows (exportPath format name directory) prepared := by
  rw [write, supported]
  simp only [made]

/-- A file is written if its path can be, and the export succeeds if the content has then come to its
end. -/
theorem writeFile_cases (format : Format) (rows : List Row) (path : String) (store : Store) :
    (¬ store.Writable path ∧
        ∃ error, writeFile format rows path store = (.error (.file error), store)) ∨
      store.Writable path ∧
        ∃ written, store.write path (content format rows).text = .ok written ∧
          writeFile format rows path store =
            (((content format rows).toText.mapError .text).map fun _ => path, written) := by
  rw [← Store.write_succeeds_iff store path (content format rows).text]
  cases wrote : store.write path (content format rows).text with
  | error error => exact .inl ⟨nofun, error, by simp only [writeFile, wrote]⟩
  | ok written => exact .inr ⟨⟨written, rfl⟩, written, rfl, by simp only [writeFile, wrote]⟩

theorem write_succeeds_iff (supported : Format.ofName formatName = .ok format) :
    Succeeds (write rows formatName name directory store).1 ↔
      (∃ prepared, store.makeDirectories directory = .ok prepared ∧
          prepared.Writable (exportPath format name directory)) ∧
        (content format rows).Ended := by
  cases made : store.makeDirectories directory with
  | error error =>
      rw [write, supported]
      simp [made]
  | ok prepared =>
      rw [write_of_makeDirectories supported made]
      rcases writeFile_cases format rows (exportPath format name directory) prepared with
        ⟨notWritable, error, result⟩ | ⟨writable, written, _, result⟩
      · rw [result]
        refine iff_of_false (Outcome.not_succeeds_error _) ?_
        rintro ⟨⟨_, ⟨⟩, writable⟩, _⟩
        exact notWritable writable
      · rw [result, Outcome.succeeds_map_iff, Outcome.succeeds_mapError_iff,
          Draft.succeeds_toText_iff]
        exact ⟨fun ended => ⟨⟨prepared, rfl, writable⟩, ended⟩, And.right⟩

/-- An export that succeeds gives the path of its file. -/
theorem path_of_write
    (supported : Format.ofName formatName = .ok format) {shown : String}
    (exported : (write rows formatName name directory store).1 = .ok shown) :
    shown = exportPath format name directory := by
  rcases (write_succeeds_iff supported).1 ⟨shown, exported⟩ with ⟨⟨prepared, made, writable⟩, _⟩
  rw [write_of_makeDirectories supported made] at exported
  rcases writeFile_cases format rows (exportPath format name directory) prepared with
    ⟨notWritable, _⟩ | ⟨_, written, _, result⟩
  · exact absurd writable notWritable
  · rw [result] at exported
    rcases Outcome.map_eq_ok_iff.1 exported with ⟨_, _, same⟩
    exact same.symm

/-- Where the path of its file can be written, an export puts the content there, as far as it goes. -/
theorem puts_of_write
    (supported : Format.ofName formatName = .ok format)
    (opened : ∃ prepared, store.makeDirectories directory = .ok prepared ∧
      prepared.Writable (exportPath format name directory)) :
    store.Puts (write rows formatName name directory store).2
      (store.placeOf (exportPath format name directory)) (content format rows).text := by
  rcases opened with ⟨prepared, made, writable⟩
  have grows := (Store.opens_of_makeDirectories made).2.1
  rw [write_of_makeDirectories supported made]
  rcases writeFile_cases format rows (exportPath format name directory) prepared with
    ⟨notWritable, _⟩ | ⟨_, written, wrote, result⟩
  · exact absurd writable notWritable
  · have puts := grows.puts (Store.puts_of_write wrote)
    rwa [result, ← grows.placeOf]

/-- Where it cannot, the export changes no file. -/
theorem files_of_write
    (supported : Format.ofName formatName = .ok format)
    (closed : ¬ ∃ prepared, store.makeDirectories directory = .ok prepared ∧
      prepared.Writable (exportPath format name directory)) :
    (write rows formatName name directory store).2.files = store.files := by
  cases made : store.makeDirectories directory with
  | error error =>
      rw [write, supported]
      simp only [made]
  | ok prepared =>
      rw [write_of_makeDirectories supported made]
      rcases writeFile_cases format rows (exportPath format name directory) prepared with
        ⟨_, error, result⟩ | ⟨writable, _⟩
      · rw [result]
        exact (Store.opens_of_makeDirectories made).2.1.files
      · exact absurd ⟨prepared, made, writable⟩ closed

end Exporting

/--
An export in a supported format puts the content of its file at the place that its path leads to and nothing
anywhere else, if the directory can be made and the path can be written then; otherwise it changes no file.
It succeeds, and gives the path, exactly if the content has moreover come to its end, which it does unless a
value in the table cannot be written. The place of the file is below the directory exactly if the name of the
file stays in it, as every relative name does that does not climb. A name without slashes is put right into the
directory; once this is made, all that can keep it from being written is its length, a null, or a directory of
that name.
-/
theorem exports_stay_iff
    {formatName : Option String} {format : Format} (supported : Format.ofName formatName = .ok format)
    (rows : List Row) (name : Option String) (directory : String) (store : Store) :
    let file := fileName name format.name
    let path := exportPath format name directory
    let base := store.placeOf directory
    let exported := write rows formatName name directory store
    let Opened := ∃ prepared, store.makeDirectories directory = .ok prepared ∧ prepared.Writable path
    ((∃ shown, exported.1 = .ok shown) ↔ Opened ∧ (content format rows).Ended) ∧
      ((∀ row ∈ rows, row.Writable) → (content format rows).Ended) ∧
      (∀ shown, exported.1 = .ok shown → shown = path) ∧
      (Opened → store.Puts exported.2 (store.placeOf path) (content format rows).text) ∧
      (¬ Opened → exported.2.files = store.files) ∧
      (Below base (store.placeOf path) ↔ StaysIn base file) ∧
      (isAbsolute file = false → (Route.ofPath file).climbed = 0 → StaysIn base file) ∧
      ('/' ∉ (name.getD "").toList →
        store.placeOf path = base ++ [file] ∧
          ∀ prepared, store.makeDirectories directory = .ok prepared →
            (prepared.Writable path ↔
              Spellable path ∧ file.utf8ByteSize ≤ nameLimit ∧
                prepared.isDirectoryAt (base ++ [file]) = false)) := by
  intro file path base exported Opened
  have ends : EndsDown file := endsDown_fileName name format
  refine ⟨write_succeeds_iff supported, ended_content_of_writable format,
    fun _ => path_of_write supported, puts_of_write supported, files_of_write supported,
    below_placeOf_joinPath_iff store directory file,
    fun relative straight => staysIn_of_straight relative straight ends base, fun plain => ?_⟩
  have plainFile : '/' ∉ file.toList := slash_notMem_fileName plain format
  have down := leadsDown_of_plain plainFile ends
  exact ⟨placeOf_joinPath_of_plain plainFile down store directory,
    fun prepared made => Store.writable_joinPath_iff made plainFile down⟩

/-- A name with blanks around it that leaves its directory and comes back to it. -/
theorem exports_stay_back_in_directory :
    let store : Store := ⟨["w"], [], []⟩
    Format.ofName (some "csv") = .ok .csv ∧
      Below (store.placeOf "out") (store.placeOf (exportPath .csv (some " ../out/x ") "out")) := by
  intro store
  have supported : Format.ofName (some "csv") = .ok .csv := by rfl
  have stays : StaysIn (store.placeOf "out") (fileName (some " ../out/x ") Format.csv.name) := by
    decide +kernel
  exact ⟨supported, (exports_stay_iff supported [] (some " ../out/x ") "out" store).2.2.2.2.2.1.2 stays⟩

/-- A name with a step up is put beside the directory. -/
theorem export_beside_directory :
    let store : Store := ⟨["w"], [], []⟩
    ∃ written,
      write [[("a", .ofNat 1)]] (some "csv") (some "../x") "out" store =
          (.ok "out/../x.csv", written) ∧
        written.contentAt? ["w", "x.csv"] = some "a\r\n1\r\n" ∧
          store.placeOf "out/../x.csv" = ["w", "x.csv"] ∧
            ¬ Below (store.placeOf "out") ["w", "x.csv"] := by
  refine ⟨_, by rfl, by rfl, by decide +kernel, by decide +kernel⟩

end Output

end RowPlan
