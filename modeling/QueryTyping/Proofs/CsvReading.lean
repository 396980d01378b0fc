import QueryTyping.Report

/-!
# Reading CSV

A reader of CSV takes a text character by character: commas end fields and newlines end
records, except within quotes, where two quotes stand for one (`Csv.Reader.step`).  A
written field leaves it where the field ended, whatever characters the field has
(`Csv.foldl_field`), so the reader finds in a report the records that were written
(`ReportFormat.csv_reads_back`).
-/

namespace QueryTyping

open Text

namespace Csv

/-- Where in a field a reader is. -/
inductive Place where
  | start
  | plain
  | quoted
  /-- Behind a quote within quotes, which closes them unless a second one follows. -/
  | behindQuote
  deriving DecidableEq, Repr

/-- What was read so far: whole records, whole fields of the next one, and the field at hand. -/
structure Reader where
  records : List (List String) := []
  fields : List String := []
  field : List Char := []
  place : Place := .start
  deriving DecidableEq, Repr

namespace Reader

def take (reader : Reader) (c : Char) (place : Place) : Reader :=
  { reader with field := reader.field ++ [c], place }

def endField (reader : Reader) : Reader :=
  { reader with fields := reader.fields ++ [String.ofList reader.field], field := [], place := .start }

def endRecord (reader : Reader) : Reader :=
  { records := reader.records ++ [reader.endField.fields] }

def step (reader : Reader) (c : Char) : Reader :=
  match reader.place with
  | .quoted => if c = '"' then { reader with place := .behindQuote } else reader.take c .quoted
  | .behindQuote => if c = '"' then reader.take c .quoted else outside reader c
  | .start => if c = '"' then { reader with place := .quoted } else outside reader c
  | .plain => outside reader c
where
  outside (reader : Reader) (c : Char) : Reader :=
    if c = ',' then reader.endField
    else if c = '\n' then reader.endRecord
    else reader.take c .plain

/-- Nothing of a next record was read. -/
def isBetween (reader : Reader) : Bool := reader.fields.isEmpty && reader.place = .start

end Reader

/-- The records of a text; the last one may lack its newline. -/
def read (text : List Char) : List (List String) :=
  let reader := text.foldl Reader.step {}
  if reader.isBetween then reader.records else reader.endRecord.records

theorem dropRightWhile_append {p : Char → Bool} {s ends : List Char}
    (dropped : ∀ c ∈ ends, p c = true) (kept : ∀ c ∈ s.getLast?, p c = false) :
    dropRightWhile p (s ++ ends) = s := by
  have backwards : (ends.reverse ++ s.reverse).dropWhile p = s.reverse.dropWhile p :=
    List.dropWhile_append_of_pos (by simpa using dropped)
  have stays : s.reverse.dropWhile p = s.reverse := by
    rw [← List.head?_reverse] at kept
    cases same : s.reverse with
    | nil => rfl
    | cons c rest =>
      rw [same] at kept
      exact List.dropWhile_cons_of_neg (by simp [kept c rfl])
  rw [dropRightWhile, List.reverse_append, backwards, stays, List.reverse_reverse]

/-- A field ends in no line end: a line end in it makes it end in a quote. -/
theorem field_getLast? (s : String) : ∀ c ∈ (field s).getLast?, isLineEnd c = false := by
  intro c last
  unfold field at last
  split at last
  · rw [List.getLast?_concat] at last
    cases last
    decide
  next plain =>
    have plain : ∀ c ∈ s.toList, needsQuotes c = false := by simpa using plain
    have unquoted := plain c (List.mem_of_getLast? last)
    simp_all [needsQuotes, isLineEnd]

theorem fields_getLast? (values : List String) :
    ∀ c ∈ (fields values).getLast?, isLineEnd c = false := by
  induction values with
  | nil => simp [fields]
  | cons s values ih =>
    cases values with
    | nil => exact field_getLast? s
    | cons next rest =>
      intro c last
      have split : fields (s :: next :: rest) = (field s ++ [',']) ++ fields (next :: rest) := by
        simp [fields]
      rw [split, List.getLast?_append, Option.mem_def, Option.or_eq_some_iff] at last
      rcases last with inRest | ⟨-, comma⟩
      · exact ih c inRest
      · obtain rfl : ',' = c := by simpa using comma
        decide

/-- Stripping the line end takes nothing from the fields. -/
theorem record_toList (values : List String) : (record values).toList = fields values := by
  rw [record, String.toList_ofList, written]
  exact dropRightWhile_append (by simp [isLineEnd]) (fields_getLast? values)

section Steps

variable (reader : Reader)

/-- Inside quotes every character of a field comes back, once its quotes are written twice. -/
theorem foldl_quoted (s : List Char) (inside : reader.place = .quoted) :
    (s.flatMap fun c => if c = '"' then ['"', '"'] else [c]).foldl Reader.step reader =
      { reader with field := reader.field ++ s } := by
  induction s generalizing reader with
  | nil => simp
  | cons c s ih =>
    rw [List.flatMap_cons, List.foldl_append]
    have one : (if c = '"' then ['"', '"'] else [c]).foldl Reader.step reader =
        reader.take c .quoted := by
      by_cases quote : c = '"'
      · subst quote
        simp [Reader.step, Reader.take, inside]
      · simp [Reader.step, inside, quote]
    rw [one, ih _ rfl]
    simp [Reader.take, inside]

theorem foldl_plain (s : List Char) (plain : ∀ c ∈ s, needsQuotes c = false)
    (outside : reader.place = .start ∨ reader.place = .plain) :
    s.foldl Reader.step reader =
      { reader with
        field := reader.field ++ s, place := if s.isEmpty then reader.place else .plain } := by
  induction s generalizing reader with
  | nil => simp
  | cons c s ih =>
    obtain ⟨first, others⟩ := List.forall_mem_cons.mp plain
    have one : reader.step c = reader.take c .plain := by
      simp only [needsQuotes, Bool.or_eq_false_iff, decide_eq_false_iff_not] at first
      rcases outside with place | place <;>
        simp [Reader.step, Reader.step.outside, place, first]
    rw [List.foldl_cons, one, ih _ others (.inr rfl)]
    simp [Reader.take]

/-- A written field is read back, and the reader is not left within quotes. -/
theorem foldl_field (s : String) (fresh : reader.field = [] ∧ reader.place = .start) :
    ∃ place, place ≠ .quoted ∧
      (field s).foldl Reader.step reader = { reader with field := s.toList, place } := by
  obtain ⟨noField, atStart⟩ := fresh
  unfold field
  split
  · have opened : reader.step '"' = { reader with place := .quoted } := by
      simp [Reader.step, atStart]
    refine ⟨.behindQuote, by decide, ?_⟩
    rw [List.cons_append, List.foldl_cons, List.foldl_append, opened, foldl_quoted _ _ rfl]
    simp [Reader.step, noField]
  next plain =>
    refine ⟨if s.toList.isEmpty then .start else .plain, by split <;> decide, ?_⟩
    rw [foldl_plain reader s.toList (by simpa using plain) (.inl atStart), noField, atStart]
    rfl

theorem step_comma (outside : reader.place ≠ .quoted) : reader.step ',' = reader.endField := by
  unfold Reader.step
  cases place : reader.place <;> simp_all [Reader.step.outside]

theorem step_newline (outside : reader.place ≠ .quoted) : reader.step '\n' = reader.endRecord := by
  unfold Reader.step
  cases place : reader.place <;> simp_all [Reader.step.outside]

/-- The fields of a record are read one after the other. -/
theorem foldl_fields (values : List String) (some : values ≠ [])
    (fresh : reader.field = [] ∧ reader.place = .start) :
    (fields values ++ ['\n']).foldl Reader.step reader =
      { records := reader.records ++ [reader.fields ++ values] } := by
  induction values generalizing reader with
  | nil => exact absurd rfl some
  | cons s values ih =>
    obtain ⟨place, outside, run⟩ := foldl_field reader s fresh
    cases values with
    | nil =>
      rw [fields, List.foldl_append, run, List.foldl_cons, step_newline _ outside]
      simp [Reader.endRecord, Reader.endField]
    | cons next rest =>
      rw [fields, List.append_assoc, List.foldl_append, run, List.cons_append, List.foldl_cons,
        step_comma _ outside, ih _ (List.cons_ne_nil next rest) ⟨rfl, rfl⟩]
      simp [Reader.endField]

theorem foldl_lines (lines : List (List String)) (some : ∀ values ∈ lines, values ≠ [])
    (before : List (List String)) :
    ((lines.map fun values => (record values).toList ++ ['\n']).flatten).foldl Reader.step
      { records := before } = { records := before ++ lines } := by
  induction lines generalizing before with
  | nil => simp
  | cons values lines ih =>
    obtain ⟨first, others⟩ := List.forall_mem_cons.mp some
    rw [List.map_cons, List.flatten_cons, List.foldl_append, record_toList,
      foldl_fields _ values first ⟨rfl, rfl⟩, List.nil_append, ih others]
    simp

end Steps

/-- Lines that were written from records are read as these records. -/
theorem read_lines (lines : List (List String)) (some : ∀ values ∈ lines, values ≠ []) :
    read (lines.map fun values => (record values).toList ++ ['\n']).flatten = lines := by
  simp [read, foldl_lines lines some, Reader.isBetween]

example : read "\"a,\"\"b\"\"\",\"c\nd\",,e\n\"\"".toList = [["a,\"b\"", "c\nd", "", "e"], [""]] := by
  decide

end Csv

namespace Report

/-- A query has one record for each of its rows, or one without a row. -/
theorem csvRecords_eq (query : TypedQuery) :
    csvRecords query =
      if query.rows = [] then [[query.name, query.resultKind.text, "", "", "", ""]]
      else query.rows.map fun row =>
        [query.name, query.resultKind.text, row.role, row.name, row.type, row.nullable] := by
  unfold csvRecords
  cases query.rows <;> rfl

/-- The lines of a report, each with its newline, are written records. -/
theorem csvLines_toList (header : Bool) (queries : List TypedQuery) :
    (String.join ((csvLines header queries).map (· ++ "\n"))).toList =
      (((if header then [csvHeader] else []) ++ queries.flatMap csvRecords).map fun values =>
        (Csv.record values).toList ++ ['\n']).flatten := by
  rw [String.toList_join, List.flatMap_def, csvLines, List.map_map, List.map_map]
  congr 2
  funext values
  exact String.toList_append

theorem ne_nil_of_mem_records {header : Bool} {queries : List TypedQuery} {values : List String}
    (written : values ∈ (if header then [csvHeader] else []) ++ queries.flatMap csvRecords) :
    values ≠ [] := by
  rcases List.mem_append.mp written with inHeader | inBody
  · cases header
    · exact absurd inHeader List.not_mem_nil
    · obtain rfl := List.mem_singleton.mp inHeader
      decide
  · obtain ⟨query, -, written⟩ := List.mem_flatMap.mp inBody
    obtain ⟨row, -, rfl⟩ := List.mem_map.mp written
    exact List.cons_ne_nil _ _

end Report

/-- A reader of CSV finds in a report the header, if one is asked for, and then of each query in
order the records of its rows, or one record without a row; every record has six fields. -/
theorem ReportFormat.csv_reads_back (header : Bool) (terminal : Nat) (queries : List TypedQuery) :
    ∃ text, (ReportFormat.csv header).report terminal queries = .ok text ∧
      Csv.read text.toList =
        (if header then [["query", "result_kind", "role", "name", "type", "nullable"]] else []) ++
          queries.flatMap fun query =>
            if query.rows = [] then [[query.name, query.resultKind.text, "", "", "", ""]]
            else query.rows.map fun row =>
              [query.name, query.resultKind.text, row.role, row.name, row.type, row.nullable] := by
  refine ⟨_, rfl, ?_⟩
  rw [Report.csvLines_toList, Csv.read_lines _ fun _ => Report.ne_nil_of_mem_records]
  simp only [Report.csvHeader, ← Report.csvRecords_eq]

end QueryTyping
