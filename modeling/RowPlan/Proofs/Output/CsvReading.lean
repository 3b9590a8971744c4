import RowPlan.Output.Csv
import RowPlan.Proofs.Output.Columns

/-!
# Comma-separated values are read back

The format as a grammar, independent of any way of reading or writing it: a field is bare text without
commas, quotes and line breaks, or stands between quotes with the quotes in it doubled; commas join the
fields of a record, and every record ends with a carriage return and a line feed, which the last one may
lack. A reader goes through a text field by field. It accepts exactly the texts of the grammar, with the
records that the grammar gives them, so that no text has two readings. What is written for a table with
columns is a text of the grammar, and it is read back as the header and the cell texts of every row. It is
written if all of these texts are there, which only an integer with too many digits can prevent.
-/

namespace RowPlan.Csv

open Outcome (Succeeds)

/-! ## The format -/

/-- A character that may stand in a bare field. -/
def IsBare (c : Char) : Prop := c ≠ ',' ∧ c ≠ '"' ∧ c ≠ '\r' ∧ c ≠ '\n'

instance (c : Char) : Decidable (IsBare c) := inferInstanceAs (Decidable (_ ∧ _))

/-- What is written between quotes, and the text that it stands for. -/
inductive Quotes : List Char → List Char → Prop where
  | nil : Quotes [] []
  | plain {c : Char} {written text : List Char} :
      c ≠ '"' → Quotes written text → Quotes (c :: written) (c :: text)
  | doubled {written text : List Char} :
      Quotes written text → Quotes ('"' :: '"' :: written) ('"' :: text)

/-- A field, bare or between quotes. -/
inductive IsField : List Char → String → Prop where
  | bare {text : List Char} : (∀ c ∈ text, IsBare c) → IsField text (String.ofList text)
  | quoted {written text : List Char} :
      Quotes written text → IsField ('"' :: (written ++ ['"'])) (String.ofList text)

/-- A record without its line end: at least one field, with commas between the fields. -/
inductive IsRecord : List Char → List String → Prop where
  | one {written : List Char} {field : String} :
      IsField written field → IsRecord written [field]
  | more {written rest : List Char} {field : String} {fields : List String} :
      IsField written field → IsRecord rest fields →
      IsRecord (written ++ ',' :: rest) (field :: fields)

/-- A table: records with their line ends. The last record may lack its own, but then something is
written for it, since nothing follows the line end of the record before. -/
inductive IsTable : List Char → List (List String) → Prop where
  | nil : IsTable [] []
  | last {written : List Char} {fields : List String} :
      written ≠ [] → IsRecord written fields → IsTable written [fields]
  | record {written rest : List Char} {fields : List String} {records : List (List String)} :
      IsRecord written fields → IsTable rest records →
      IsTable (written ++ '\r' :: '\n' :: rest) (fields :: records)

/-! ## Reading -/

/-- The text of a quoted field, given what follows its opening quote, and what follows its closing
quote. -/
def readQuotes : List Char → Option (List Char × List Char)
  | [] => none
  | '"' :: '"' :: rest => (readQuotes rest).map fun (text, after) => ('"' :: text, after)
  | '"' :: rest => some ([], rest)
  | c :: rest => (readQuotes rest).map fun (text, after) => (c :: text, after)

/-- The field at the start of a text and what follows it. -/
def readField : List Char → Option (String × List Char)
  | '"' :: rest => (readQuotes rest).map fun (text, after) => (String.ofList text, after)
  | text =>
    some (String.ofList (text.takeWhile fun c => decide (IsBare c)),
      text.dropWhile fun c => decide (IsBare c))

/-- The fields at the start of a text and what follows the last of them. Every further field takes a
comma, so the length of the text bounds their number. -/
def readRecord : Nat → List Char → Option (List String × List Char)
  | 0, _ => none
  | limit + 1, text =>
    match readField text with
    | none => none
    | some (field, ',' :: rest) =>
      (readRecord limit rest).map fun (fields, after) => (field :: fields, after)
    | some (field, after) => some ([field], after)

/-- The records of a text. -/
def readRecords : Nat → List Char → Option (List (List String))
  | _, [] => some []
  | 0, _ => none
  | limit + 1, text =>
    match readRecord (text.length + 1) text with
    | some (fields, []) => some [fields]
    | some (fields, '\r' :: '\n' :: rest) => (readRecords limit rest).map (fields :: ·)
    | _ => none

/-- Read a table. -/
def read? (text : String) : Option (List (List String)) :=
  readRecords text.toList.length text.toList

/-! ## Whatever is read is in the format -/

theorem quotes_of_readQuotes
    {source text after : List Char} (read : readQuotes source = some (text, after)) :
    ∃ written, source = written ++ '"' :: after ∧ Quotes written text := by
  fun_induction readQuotes source generalizing text with
  | case1 => cases read
  | case2 rest later =>
      rcases Option.map_eq_some_iff.1 read with ⟨⟨inner, _⟩, innerRead, same⟩
      cases same
      rcases later innerRead with ⟨written, rfl, quotes⟩
      exact ⟨'"' :: '"' :: written, rfl, .doubled quotes⟩
  | case3 rest notDoubled =>
      cases read
      exact ⟨[], rfl, .nil⟩
  | case4 c rest notDoubled notQuote later =>
      rcases Option.map_eq_some_iff.1 read with ⟨⟨inner, _⟩, innerRead, same⟩
      cases same
      rcases later innerRead with ⟨written, rfl, quotes⟩
      exact ⟨c :: written, rfl, .plain notQuote quotes⟩

theorem isField_of_readField
    {source after : List Char} {field : String} (read : readField source = some (field, after)) :
    ∃ written, source = written ++ after ∧ IsField written field := by
  unfold readField at read
  split at read
  · rename_i rest
    rcases Option.map_eq_some_iff.1 read with ⟨⟨text, _⟩, textRead, same⟩
    cases same
    rcases quotes_of_readQuotes textRead with ⟨written, rfl, quotes⟩
    exact ⟨'"' :: (written ++ ['"']), by simp, .quoted quotes⟩
  · cases read
    refine ⟨_, List.takeWhile_append_dropWhile.symm, .bare ?_⟩
    intro c member
    exact of_decide_eq_true (List.all_eq_true.1 List.all_takeWhile c member)

theorem isRecord_of_readRecord
    {limit : Nat} {source after : List Char} {fields : List String}
    (read : readRecord limit source = some (fields, after)) :
    ∃ written, source = written ++ after ∧ IsRecord written fields := by
  induction limit generalizing source fields with
  | zero => cases read
  | succ limit later =>
      unfold readRecord at read
      split at read
      · cases read
      · rename_i field rest fieldRead
        rcases Option.map_eq_some_iff.1 read with ⟨⟨others, _⟩, othersRead, same⟩
        cases same
        rcases isField_of_readField fieldRead with ⟨written, rfl, isField⟩
        rcases later othersRead with ⟨more, rfl, isRecord⟩
        exact ⟨written ++ ',' :: more, by simp, .more isField isRecord⟩
      · rename_i field rest _ fieldRead
        cases read
        rcases isField_of_readField fieldRead with ⟨written, rfl, isField⟩
        exact ⟨written, rfl, .one isField⟩

theorem isTable_of_readRecords
    {limit : Nat} {source : List Char} {records : List (List String)}
    (read : readRecords limit source = some records) :
    IsTable source records := by
  induction limit generalizing source records with
  | zero =>
      cases source with
      | nil =>
          cases read
          exact .nil
      | cons => cases read
  | succ limit later =>
      cases source with
      | nil =>
          cases read
          exact .nil
      | cons c source =>
          unfold readRecords at read
          split at read
          · rename_i fields recordRead
            cases read
            rcases isRecord_of_readRecord recordRead with ⟨written, whole, isRecord⟩
            rw [List.append_nil] at whole
            rw [whole]
            exact .last (whole ▸ List.cons_ne_nil _ _) isRecord
          · rename_i fields rest recordRead
            rcases Option.map_eq_some_iff.1 read with ⟨others, othersRead, rfl⟩
            rcases isRecord_of_readRecord recordRead with ⟨written, whole, isRecord⟩
            rw [whole]
            exact .record isRecord (later othersRead)
          · cases read

/-! ## Whatever is in the format is read -/

/-- A text that ends the field before it: nothing, or a comma or a line break comes next. -/
def EndsField (rest : List Char) : Prop :=
  ∀ c tail, rest = c :: tail → ¬ IsBare c ∧ c ≠ '"'

/-- A text that ends the record before it: nothing, or a line end comes next. -/
def EndsRecord (rest : List Char) : Prop :=
  rest = [] ∨ ∃ tail, rest = '\r' :: '\n' :: tail

theorem endsField_comma (rest : List Char) : EndsField (',' :: rest) := by
  rintro _ _ ⟨⟩
  decide

theorem EndsRecord.endsField {rest : List Char} (ends : EndsRecord rest) : EndsField rest := by
  rcases ends with rfl | ⟨tail, rfl⟩
  · rintro _ _ ⟨⟩
  · rintro _ _ ⟨⟩
    decide

/-- The closing quote is the first one that is not doubled. -/
theorem readQuotes_of_quotes
    {written text : List Char} (quotes : Quotes written text) {rest : List Char}
    (ends : EndsField rest) :
    readQuotes (written ++ '"' :: rest) = some (text, rest) := by
  induction quotes with
  | nil =>
      rw [List.nil_append, readQuotes]
      rintro tail rfl
      exact (ends '"' tail rfl).2 rfl
  | @plain c written text notQuote _ later =>
      rw [List.cons_append, readQuotes, later]
      · rfl
      · rintro _ rfl
        exact absurd rfl notQuote
      · exact notQuote
  | doubled _ later =>
      rw [List.cons_append, List.cons_append, readQuotes, later]
      rfl

theorem readField_bare
    {source : List Char} (noQuote : ∀ tail, source ≠ '"' :: tail) :
    readField source =
      some (String.ofList (source.takeWhile fun c => decide (IsBare c)),
        source.dropWhile fun c => decide (IsBare c)) := by
  rw [readField]
  rintro tail rfl
  exact noQuote tail rfl

theorem readField_of_isField
    {written : List Char} {field : String} (isField : IsField written field) {rest : List Char}
    (ends : EndsField rest) :
    readField (written ++ rest) = some (field, rest) := by
  cases isField with
  | bare bare =>
      have allBare : ∀ c ∈ written, decide (IsBare c) = true := fun c member =>
        decide_eq_true (bare c member)
      have noQuote : ∀ tail, written ++ rest ≠ '"' :: tail := by
        intro tail shape
        cases written with
        | nil => exact (ends '"' tail shape).2 rfl
        | cons c more =>
            cases shape
            exact (bare '"' List.mem_cons_self).2.1 rfl
      have nothingTaken : (rest.takeWhile fun c => decide (IsBare c)) = [] := by
        cases rest with
        | nil => rfl
        | cons c tail => exact List.takeWhile_cons_of_neg (by simpa using (ends c tail rfl).1)
      have nothingDropped : (rest.dropWhile fun c => decide (IsBare c)) = rest := by
        cases rest with
        | nil => rfl
        | cons c tail => exact List.dropWhile_cons_of_neg (by simpa using (ends c tail rfl).1)
      rw [readField_bare noQuote, List.takeWhile_append_of_pos allBare,
        List.dropWhile_append_of_pos allBare, nothingTaken, nothingDropped, List.append_nil]
  | quoted quotes =>
      rw [List.cons_append, List.append_assoc, List.singleton_append, readField,
        readQuotes_of_quotes quotes ends]
      rfl

theorem readRecord_of_isRecord
    {written : List Char} {fields : List String} (isRecord : IsRecord written fields) {limit : Nat}
    (enough : written.length < limit) {rest : List Char} (ends : EndsRecord rest) :
    readRecord limit (written ++ rest) = some (fields, rest) := by
  induction isRecord generalizing limit with
  | one isField =>
      obtain ⟨smaller, rfl⟩ := Nat.exists_eq_succ_of_ne_zero (Nat.ne_zero_of_lt enough)
      have read := readField_of_isField isField ends.endsField
      rw [readRecord, read]
      rcases ends with rfl | ⟨tail, rfl⟩ <;> rfl
  | @more written more field fields isField _ later =>
      obtain ⟨smaller, rfl⟩ := Nat.exists_eq_succ_of_ne_zero (Nat.ne_zero_of_lt enough)
      have read := readField_of_isField isField (endsField_comma (more ++ rest))
      have enoughLeft : more.length < smaller := by
        simp only [List.length_append, List.length_cons] at enough
        omega
      rw [List.append_assoc, List.cons_append, readRecord, read]
      simp only [later enoughLeft, Option.map_some]

theorem readRecords_succ {limit : Nat} {source : List Char} (something : source ≠ []) :
    readRecords (limit + 1) source =
      match readRecord (source.length + 1) source with
      | some (fields, []) => some [fields]
      | some (fields, '\r' :: '\n' :: rest) => (readRecords limit rest).map (fields :: ·)
      | _ => none := by
  cases source with
  | nil => exact absurd rfl something
  | cons c more => rfl

theorem readRecords_of_isTable
    {source : List Char} {records : List (List String)} (isTable : IsTable source records) {limit : Nat}
    (enough : source.length ≤ limit) :
    readRecords limit source = some records := by
  induction isTable generalizing limit with
  | nil => cases limit <;> rfl
  | @last written fields something isRecord =>
      have read := readRecord_of_isRecord isRecord (Nat.lt_succ_self _) (.inl rfl)
      rw [List.append_nil] at read
      rcases limit with _ | smaller
      · exact absurd (List.eq_nil_of_length_eq_zero (Nat.le_zero.1 enough)) something
      · rw [readRecords_succ something, read]
  | @record written rest fields records isRecord _ later =>
      have read :
          readRecord ((written ++ '\r' :: '\n' :: rest).length + 1)
              (written ++ '\r' :: '\n' :: rest) =
            some (fields, '\r' :: '\n' :: rest) := by
        apply readRecord_of_isRecord isRecord _ (.inr ⟨rest, rfl⟩)
        rw [List.length_append]
        omega
      have something : written ++ '\r' :: '\n' :: rest ≠ [] := by simp
      simp only [List.length_append, List.length_cons] at enough
      rcases limit with _ | smaller
      · omega
      · rw [readRecords_succ something, read]
        simp only [later (show rest.length ≤ smaller by omega), Option.map_some]

/-- The reader accepts the texts of the format, with the records that the format gives them. -/
theorem read?_eq_some_iff {text : String} {records : List (List String)} :
    read? text = some records ↔ IsTable text.toList records :=
  ⟨isTable_of_readRecords, fun isTable => readRecords_of_isTable isTable (Nat.le_refl _)⟩

/-- No text is the text of two tables. -/
theorem IsTable.unique
    {source : List Char} {left right : List (List String)} (isLeft : IsTable source left)
    (isRight : IsTable source right) :
    left = right :=
  Option.some.inj
    ((readRecords_of_isTable isLeft (Nat.le_refl _)).symm.trans (readRecords_of_isTable isRight (Nat.le_refl _)))

/-! ## Whatever is written is in the format -/

theorem isBare_iff {c : Char} : IsBare c ↔ isSpecial c = false := by
  simp only [IsBare, isSpecial, Bool.or_eq_false_iff, beq_eq_false_iff_ne, and_assoc]

theorem quotes_flatMap_quoteChar (text : List Char) : Quotes (text.flatMap quoteChar) text := by
  induction text with
  | nil => exact .nil
  | cons c text rest =>
      rw [List.flatMap_cons, quoteChar]
      split
      · rename_i isQuote
        rw [isQuote]
        exact .doubled rest
      · rename_i notQuote
        exact .plain notQuote rest

theorem isField_quotedField (text : List Char) : IsField (quotedField text) (String.ofList text) :=
  .quoted (quotes_flatMap_quoteChar text)

/-- A field is written bare only if all of its characters may stand bare. -/
theorem isField_writeField (field : String) : IsField (writeField field) field := by
  rw [writeField]
  split
  · simpa only [String.ofList_toList] using isField_quotedField field.toList
  · rename_i noSpecial
    have bare : ∀ c ∈ field.toList, IsBare c := fun c member =>
      isBare_iff.2 (Bool.eq_false_iff.2 fun special =>
        noSpecial (List.any_eq_true.2 ⟨c, member, special⟩))
    simpa only [String.ofList_toList] using IsField.bare bare

theorem isRecord_joinFields {fields : List String} (nonempty : fields ≠ []) :
    IsRecord (joinFields (fields.map writeField)) fields := by
  induction fields with
  | nil => exact absurd rfl nonempty
  | cons field rest later =>
      cases rest with
      | nil => exact .one (isField_writeField field)
      | cons next rest => exact .more (isField_writeField field) (later (List.cons_ne_nil _ _))

/-- A record without fields would be read back as one with an empty field. -/
theorem isTable_flatMap_writeRecord
    {records : List (List String)} (nonempty : ∀ fields ∈ records, fields ≠ []) :
    IsTable (records.flatMap writeRecord) records := by
  induction records with
  | nil => exact .nil
  | cons fields rest later =>
      have isRest := later fun others member => nonempty others (List.mem_cons_of_mem _ member)
      rw [List.flatMap_cons, writeRecord, List.append_assoc]
      split
      · rename_i lone
        rw [lone]
        exact .record (.one (isField_quotedField [])) isRest
      · exact .record (isRecord_joinFields (nonempty fields List.mem_cons_self)) isRest

/-! ## Tables that are written -/

/-- The records of a table: a header, and the texts of the cells of every row. -/
def records (rows : List Row) : Except TextError (List (List String)) :=
  (rows.mapM fun row => (Output.columns rows).mapM (Output.cellText row)).map (Output.columns rows :: ·)

/-- The record of a row has the texts of its cells. -/
theorem flatten_bind_rowRecord (columns : List String) (row : Row) :
    (Output.flatten columns row >>= rowRecord) =
      (columns.mapM (Output.cellText row)).map fun fields => String.ofList (writeRecord fields) := by
  have cells :
      columns.mapM (Output.cellText row) =
        columns.mapM fun column =>
          (Output.cellAt row column).map (fun cell => (column, cell)) >>= fun cell => cell.2.text := by
    congr 1
    funext column
    rw [Output.cellText]
    cases Output.cellAt row column <;> rfl
  apply TextError.outcome_ext
  intro text
  rw [Outcome.bind_eq_ok_iff, Outcome.map_eq_ok_iff]
  simp only [cells, Outcome.mapM_bind_eq_ok_iff, Output.flatten, rowRecord, Outcome.bind_eq_ok_iff,
    Except.ok.injEq]
  constructor
  · rintro ⟨flat, flattened, fields, texts, written⟩
    exact ⟨fields, ⟨flat, flattened, texts⟩, written⟩
  · rintro ⟨fields, ⟨flat, flattened, texts⟩, written⟩
    exact ⟨flat, flattened, fields, texts, written⟩

theorem toText_draftRows_eq_ok_iff {flat : List Row} {text : String} :
    (draftRows flat).toText = .ok text ↔
      ∃ lines, flat.mapM rowRecord = .ok lines ∧ lines.flatMap String.toList = text.toList := by
  induction flat generalizing text with
  | nil =>
      constructor
      · rintro ⟨⟩
        exact ⟨[], rfl, rfl⟩
      · rintro ⟨_, ⟨⟩, same⟩
        exact congrArg Except.ok (String.toList_inj.1 same)
  | cons cells rest later =>
      rw [draftRows, Draft.toText_append_eq_ok_iff, Draft.toText_ofText]
      simp only [later, List.mapM_cons, Outcome.bind_eq_ok_iff]
      constructor
      · rintro ⟨line, after, first, ⟨lines, others, same⟩, rfl⟩
        refine ⟨line :: lines, ⟨line, first, lines, others, rfl⟩, ?_⟩
        rw [List.flatMap_cons, same, String.toList_append]
      · rintro ⟨_, ⟨line, first, lines, others, made⟩, same⟩
        cases made
        refine ⟨line, String.ofList (lines.flatMap String.toList), first, ⟨lines, others, ?_⟩, ?_⟩
        · rw [String.toList_ofList]
        · rw [← String.toList_inj, ← same, String.toList_append, String.toList_ofList,
            List.flatMap_cons]

/-- What is written for a table are its records. -/
theorem write_eq_ok_iff {rows : List Row} {text : String} :
    write rows = .ok text ↔
      ∃ table, records rows = .ok table ∧ table.flatMap writeRecord = text.toList := by
  have lines :
      rows.mapM (fun row => Output.flatten (Output.columns rows) row >>= rowRecord) =
        (rows.mapM fun row => (Output.columns rows).mapM (Output.cellText row)).map
          (List.map fun fields => String.ofList (writeRecord fields)) := by
    simp only [flatten_bind_rowRecord, Outcome.mapM_map]
  have texts (body : List (List String)) :
      (body.map fun fields => String.ofList (writeRecord fields)).flatMap String.toList =
        body.flatMap writeRecord := by
    simp [List.flatMap_map]
  have ofRecords :
      (∃ table, records rows = .ok table ∧ table.flatMap writeRecord = text.toList) ↔
        ∃ flat, rows.mapM (Output.flatten (Output.columns rows)) = .ok flat ∧
          ∃ rest, (draftRows flat).toText = .ok rest ∧
            String.ofList (writeRecord (Output.columns rows)) ++ rest = text := by
    simp only [records, Outcome.map_eq_ok_iff, toText_draftRows_eq_ok_iff]
    constructor
    · rintro ⟨_, ⟨body, made, rfl⟩, same⟩
      have done := lines.trans (congrArg _ made)
      rcases Outcome.mapM_bind_eq_ok_iff.1 done with ⟨flat, flattened, written⟩
      refine ⟨flat, flattened, String.ofList (body.flatMap writeRecord), ⟨_, written, ?_⟩, ?_⟩
      · rw [texts, String.toList_ofList]
      · rw [← String.toList_inj, ← same, String.toList_append, String.toList_ofList,
          String.toList_ofList, List.flatMap_cons]
    · rintro ⟨flat, flattened, rest, ⟨_, written, same⟩, rfl⟩
      have done := Outcome.mapM_bind_eq_ok_iff.2 ⟨flat, flattened, written⟩
      rcases Outcome.map_eq_ok_iff.1 (lines.symm.trans done) with ⟨body, made, rfl⟩
      refine ⟨_, ⟨body, made, rfl⟩, ?_⟩
      rw [List.flatMap_cons, String.toList_append, ← same, texts, String.toList_ofList]
  rw [ofRecords, write, draft, Draft.toText_append_eq_ok_iff]
  cases rows.mapM (Output.flatten (Output.columns rows)) with
  | error error => simp [Draft.ofText, Draft.toText]
  | ok flat => simp

theorem succeeds_records_iff {rows : List Row} :
    Succeeds (records rows) ↔
      ∀ row ∈ rows, ∀ column value, row.find? column = some value → value.Writable := by
  rw [records, Outcome.succeeds_map_iff, Outcome.succeeds_mapM_iff]
  simp only [Outcome.succeeds_mapM_iff, Output.succeeds_cellText_iff]
  constructor
  · intro each row member column value found
    have listed : column ∈ Output.columns rows := by
      refine Output.mem_columns_iff.2 ⟨row, member, ?_⟩
      by_contra absent
      cases (Row.find?_eq_none_iff.2 absent).symm.trans found
    exact each row member column listed value found
  · intro each row member column _ value found
    exact each row member column value found

/-- A table is written if and only if every value in its rows can be. -/
theorem succeeds_write_iff {rows : List Row} :
    Succeeds (write rows) ↔
      ∀ row ∈ rows, ∀ column value, row.find? column = some value → value.Writable := by
  rw [← succeeds_records_iff]
  constructor
  · rintro ⟨text, written⟩
    rcases write_eq_ok_iff.1 written with ⟨table, made, _⟩
    exact ⟨table, made⟩
  · rintro ⟨table, made⟩
    refine ⟨String.ofList (table.flatMap writeRecord), write_eq_ok_iff.2 ⟨table, made, ?_⟩⟩
    rw [String.toList_ofList]

theorem ne_nil_of_mem_records
    {rows : List Row} (named : Output.columns rows ≠ []) {table : List (List String)}
    (made : records rows = .ok table) {fields : List String} (member : fields ∈ table) :
    fields ≠ [] := by
  rcases Outcome.map_eq_ok_iff.1 made with ⟨body, bodyMade, rfl⟩
  rcases List.mem_cons.1 member with rfl | later
  · exact named
  · rcases Outcome.exists_of_mem_mapM bodyMade later with ⟨row, _, texts⟩
    rw [← List.length_pos_iff, Outcome.length_of_mapM texts, List.length_pos_iff]
    exact named

theorem isTable_of_write
    {rows : List Row} (named : Output.columns rows ≠ []) {text : String} {table : List (List String)}
    (made : records rows = .ok table) (written : table.flatMap writeRecord = text.toList) :
    IsTable text.toList table :=
  written ▸ isTable_flatMap_writeRecord fun _ member => ne_nil_of_mem_records named made member

/-- A table in which some row has a field is written if and only if every value in its rows can be. It is
then read back from its text, which no other reading fits: a header with the columns and then for every row
the texts of its cells. The columns are the field names of the rows, each once, in the order of first
occurrence; a row without a column's field has an empty cell there, any other row the text of its
field. -/
theorem written_table_reads_back
    (rows : List Row) (named : ∃ row ∈ rows, row.keys ≠ []) :
    ((∃ text, write rows = .ok text) ↔
        ∀ row ∈ rows, ∀ column value, row.find? column = some value → value.Writable) ∧
      (∀ text, write rows = .ok text →
        ∃ body,
          (rows.mapM fun row => (Output.columns rows).mapM (Output.cellText row)) = .ok body ∧
            (∀ table, IsTable text.toList table ↔ table = Output.columns rows :: body) ∧
            read? text = some (Output.columns rows :: body) ∧
            (Output.columns rows :: body).length = rows.length + 1) ∧
      (∀ (row : Row) column,
        Output.cellText row column = (row.find? column).elim (.ok "") Output.valueText) ∧
      (Output.columns rows).Nodup ∧
      (∀ column, column ∈ Output.columns rows ↔ ∃ row ∈ rows, column ∈ row.keys) ∧
      (Output.columns rows).Pairwise fun column later =>
        (rows.flatMap Row.keys).idxOf column < (rows.flatMap Row.keys).idxOf later := by
  refine ⟨succeeds_write_iff, fun text written => ?_, Output.cellText_eq, Output.nodup_columns rows,
    fun column => Output.mem_columns_iff, Output.pairwise_columns rows⟩
  rcases write_eq_ok_iff.1 written with ⟨_, made, shown⟩
  have isTable := isTable_of_write (Output.columns_ne_nil_iff.2 named) made shown
  rcases Outcome.map_eq_ok_iff.1 made with ⟨body, bodyMade, rfl⟩
  refine ⟨body, bodyMade, fun table => ⟨fun isOther => isOther.unique isTable, ?_⟩,
    read?_eq_some_iff.2 isTable, ?_⟩
  · rintro rfl
    exact isTable
  · rw [List.length_cons, Outcome.length_of_mapM bodyMade]

theorem written_table_reads_back_marks :
    let rows : List Row := [[("", .str "a,\"b\"\r\nc")], [("x,y", .arr [.bool true, .null])]]
    let lone : List Row := [[("", .null)]]
    write rows = .ok ",\"x,y\"\r\n\"a,\"\"b\"\"\r\nc\",\r\n,\"true, \"\r\n" ∧
      read? ",\"x,y\"\r\n\"a,\"\"b\"\"\r\nc\",\r\n,\"true, \"\r\n" =
        some [["", "x,y"], ["a,\"b\"\r\nc", ""], ["", "true, "]] ∧
      write lone = .ok "\"\"\r\n\"\"\r\n" ∧
      read? "\"\"\r\n\"\"\r\n" = some [[""], [""]] := by
  intro rows lone
  have named : ∃ row ∈ rows, row.keys ≠ [] := ⟨_, List.mem_cons_self, by decide⟩
  have loneNamed : ∃ row ∈ lone, row.keys ≠ [] := ⟨_, List.mem_cons_self, by decide⟩
  have written : write rows = .ok ",\"x,y\"\r\n\"a,\"\"b\"\"\r\nc\",\r\n,\"true, \"\r\n" := by
    decide +kernel
  have loneWritten : write lone = .ok "\"\"\r\n\"\"\r\n" := by decide +kernel
  rcases (written_table_reads_back rows named).2.1 _ written with ⟨body, made, _, read, _⟩
  rcases (written_table_reads_back lone loneNamed).2.1 _ loneWritten with
    ⟨loneBody, loneMade, _, loneRead, _⟩
  have columns : Output.columns rows = ["", "x,y"] := by decide +kernel
  have loneColumns : Output.columns lone = [""] := by decide +kernel
  rw [columns] at made read
  rw [loneColumns] at loneMade loneRead
  have texts :
      (rows.mapM fun row => ["", "x,y"].mapM (Output.cellText row)) =
        .ok [["a,\"b\"\r\nc", ""], ["", "true, "]] := by decide +kernel
  have loneTexts : (lone.mapM fun row => [""].mapM (Output.cellText row)) = .ok [[""]] := by
    decide +kernel
  cases texts.symm.trans made
  cases loneTexts.symm.trans loneMade
  exact ⟨written, read, loneWritten, loneRead⟩

/-- A row with an integer of too many digits is not written. -/
theorem written_table_reads_back_not_beyond_limit :
    write [[("b", .num (.int (10 ^ 6000 : Nat)))]] = .error .tooManyDigits := by
  have beyond : ¬ (Value.num (.int (10 ^ 6000 : Nat))).Writable := by
    rw [Value.writable_num_iff]
    exact Decimal.not_writable_pow (by decide)
  cases found : write [[("b", .num (.int (10 ^ 6000 : Nat)))]] with
  | error error => rfl
  | ok text =>
      have each := succeeds_write_iff.1 ⟨text, found⟩ _ List.mem_cons_self
      exact absurd (each "b" _ (by rfl)) beyond

end RowPlan.Csv
