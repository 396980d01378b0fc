import QueryTyping.Json.Access
import QueryTyping.Manifest
import QueryTyping.Proofs.Admission
import QueryTyping.Proofs.JsonLayouts
import QueryTyping.Report
import QueryTyping.TypedQuery.Model

/-!
# Manifests are read back

The document of a manifest keeps everything: the name of the query file and the
queries with their types are admitted from it as they were
(`TypedQuery.check_json`).  Its text is JSON in ASCII that ends with a line, and
it writes no other document, so the same holds for whoever reads the text
(`manifest_reads_back`).  A report in JSON holds the same value as the manifest,
in both of its layouts.
-/

namespace QueryTyping

open Check

namespace Check

variable {α : Type}

theorem field_given [Inhabited α] {members : List (String × Datum)} {name : String}
    {check : Check α} {datum : Datum} {value : α} (given : members.lookup name = some datum)
    (admitted : check datum = .ok value) : field members name check = pure value := by
  simp only [field, given, admitted]
  rfl

theorem fieldOr_given [Inhabited α] {members : List (String × Datum)} {name : String}
    {fallback : α} {check : Check α} {datum : Datum} {value : α}
    (given : members.lookup name = some datum) (admitted : check datum = .ok value) :
    fieldOr members name fallback check = pure value := by
  simp only [fieldOr, given, admitted]
  rfl

theorem model_table {name : String} {fields : List (String × Datum) → Fields α}
    {members : List (String × Datum)} {value : α} (admitted : fields members = pure value) :
    model name fields (.table members) = .ok value := by
  simp only [model, admitted]
  rfl

theorem text_ok (s : String) : text (.text s) = .ok s := rfl

theorem integer_ok (n : Int) : integer (.integer n) = .ok n := rfl

theorem truth_ok (value : Bool) : truth (.bool value) = .ok value := rfl

/-- A list is admitted if each of its items is. -/
theorem elements_map {check : Check α} {encode : α → Datum}
    (admits : ∀ value, check (encode value) = .ok value) (values : List α) :
    elements check (values.map encode) = .ok values := by
  have admitted (start : Nat) :
      List.Forall₂ (fun (item : Datum × Nat) value =>
        under (toString item.2) (check item.1) = .ok value)
        ((values.map encode).zipIdx start) values := by
    induction values generalizing start with
    | nil => exact .nil
    | cons value values ih =>
      exact .cons (under_eq_ok_iff.mpr (admits value)) (ih (start + 1))
  exact collect_eq_ok_iff.mpr (admitted 0)

end Check

theorem Datum.ofJsonItems_eq (items : List Json) :
    Datum.ofJsonItems items = items.map Datum.ofJson := by
  induction items with
  | nil => rfl
  | cons item items ih => simp [Datum.ofJsonItems, ih]

theorem Datum.ofJson_list_map {α : Type} (encode : α → Json) (values : List α) :
    Datum.ofJson (.list (values.map encode)) =
      .list (values.map fun value => Datum.ofJson (encode value)) := by
  simp [Datum.ofJson, Datum.ofJsonItems_eq, Function.comp_def]

theorem ResultKind.check_text (kind : ResultKind) : ResultKind.check (.text kind.text) = .ok kind := by
  simp [ResultKind.check, word, ResultKind.ofText?_text]

theorem TypeKind.check_text (kind : TypeKind) : TypeKind.check (.text kind.text) = .ok kind := by
  simp [TypeKind.check, word, TypeKind.ofText?_text]

theorem TypeDescriptor.datum_table (type : TypeDescriptor) :
    ∃ members, Datum.ofJson type.json = .table members := by
  cases type <;> exact ⟨_, rfl⟩

theorem Check.optional_table {α : Type} {check : Check α} {datum : Datum} {value : α}
    (table : ∃ members, datum = .table members) (admitted : check datum = .ok value) :
    optional check datum = .ok (some value) := by
  obtain ⟨members, rfl⟩ := table
  simp only [Check.optional, admitted]
  rfl

/-- A type is admitted if the bound leaves room for its elements. -/
theorem TypeDescriptor.checkWithin_json (type : TypeDescriptor) {bound : Nat}
    (room : (Datum.ofJson type.json).depth < bound) :
    checkWithin bound (Datum.ofJson type.json) = .ok type := by
  induction type generalizing bound with
  | plain oid name kind =>
    obtain ⟨bound, rfl⟩ := Nat.exists_eq_add_one_of_ne_zero (Nat.ne_of_gt (Nat.zero_lt_of_lt room))
    have noElem : optional (checkWithin bound) .null = .ok none := rfl
    apply model_table
    rw [field_given (by rfl) (integer_ok oid), field_given (by rfl) (text_ok name),
      fieldOr_given (by rfl) (TypeKind.check_text kind), fieldOr_given (by rfl) noElem]
    rfl
  | derived oid name kind elem ih =>
    obtain ⟨bound, rfl⟩ := Nat.exists_eq_add_one_of_ne_zero (Nat.ne_of_gt (Nat.zero_lt_of_lt room))
    have inner : (Datum.ofJson elem.json).depth < bound := by
      simpa [TypeDescriptor.json, Datum.ofJson, Datum.ofJsonMembers, Datum.depth,
        Datum.depthOfMembers] using room
    have hasElem := optional_table elem.datum_table (ih inner)
    apply model_table
    rw [field_given (by rfl) (integer_ok oid), field_given (by rfl) (text_ok name),
      fieldOr_given (by rfl) (TypeKind.check_text kind), fieldOr_given (by rfl) hasElem]
    rfl

theorem TypeDescriptor.check_json (type : TypeDescriptor) :
    TypeDescriptor.check (Datum.ofJson type.json) = .ok type :=
  type.checkWithin_json (Nat.lt_succ_self _)

theorem InputParam.check_json (param : InputParam) :
    InputParam.check (Datum.ofJson param.json) = .ok param := by
  apply model_table
  rw [field_given (by rfl) (text_ok param.name),
    field_given (by rfl) (TypeDescriptor.check_json param.type)]
  rfl

theorem OutputColumn.check_json (column : OutputColumn) :
    OutputColumn.check (Datum.ofJson column.json) = .ok column := by
  apply model_table
  rw [field_given (by rfl) (text_ok column.name),
    field_given (by rfl) (TypeDescriptor.check_json column.type),
    field_given (by rfl) (truth_ok column.nullable)]
  rfl

/-- A query is admitted from its document as it was. -/
theorem TypedQuery.check_json (query : TypedQuery) :
    TypedQuery.check (Datum.ofJson query.json) = .ok query := by
  have doc : Check.tuple Check.text (Datum.ofJson (.texts query.doc)) = .ok query.doc := by
    rw [Json.texts, Datum.ofJson_list_map]
    exact elements_map text_ok query.doc
  have inputs : Check.tuple InputParam.check
      (Datum.ofJson (.list (query.inputs.map InputParam.json))) = .ok query.inputs := by
    rw [Datum.ofJson_list_map]
    exact elements_map InputParam.check_json query.inputs
  have outputs : Check.tuple OutputColumn.check
      (Datum.ofJson (.list (query.outputs.map OutputColumn.json))) = .ok query.outputs := by
    rw [Datum.ofJson_list_map]
    exact elements_map OutputColumn.check_json query.outputs
  apply model_table
  rw [field_given (by rfl) (text_ok query.name),
    field_given (by rfl) (ResultKind.check_text query.resultKind), fieldOr_given (by rfl) doc,
    field_given (by rfl) (text_ok query.preparedSql), fieldOr_given (by rfl) inputs,
    fieldOr_given (by rfl) outputs]
  rfl

/-- A list of queries is admitted from its document as it was. -/
theorem TypedQuery.check_jsonList (queries : List TypedQuery) :
    Check.tuple TypedQuery.check (Datum.ofJson (jsonList queries)) = .ok queries := by
  rw [jsonList, Datum.ofJson_list_map]
  exact elements_map TypedQuery.check_json queries

namespace Json

/-- The text writes this document and no other. -/
def IsWrittenBy (document : Json) (text : String) : Prop :=
  DocumentText document text.toList ∧ ∀ other, DocumentText other text.toList → other = document

theorem isWrittenBy_of_documentText {document : Json} {text : String}
    (written : DocumentText document text.toList) : document.IsWrittenBy text :=
  ⟨written, fun _ otherWritten => documentText_unique otherWritten written⟩

/-- A last line end is white space behind the document. -/
theorem documentText_line {document : Json} {text : String}
    (written : DocumentText document text.toList) : DocumentText document (text ++ "\n").toList := by
  have blank : IsSpace ['\n'] := by simp [IsSpace, spaces]
  rw [String.toList_append]
  exact written.followed blank

theorem integralItems_map {α : Type} {encode : α → Json} (values : List α)
    (integral : ∀ value ∈ values, (encode value).Integral) :
    IntegralItems (values.map encode) := by
  induction values with
  | nil => trivial
  | cons value values ih =>
    exact ⟨integral value List.mem_cons_self, ih fun other member =>
      integral other (List.mem_cons_of_mem value member)⟩

end Json

theorem TypeDescriptor.json_integral (type : TypeDescriptor) : type.json.Integral := by
  induction type with
  | plain => exact ⟨trivial, trivial, trivial, trivial, trivial⟩
  | derived oid name kind elem ih => exact ⟨trivial, trivial, trivial, ih, trivial⟩

theorem TypedQuery.json_integral (query : TypedQuery) : query.json.Integral := by
  refine ⟨trivial, trivial, ?_, trivial, ?_, ?_, trivial⟩
  · exact Json.integralItems_map query.doc fun _ _ => trivial
  · exact Json.integralItems_map query.inputs fun param _ =>
      ⟨trivial, param.type.json_integral, trivial⟩
  · exact Json.integralItems_map query.outputs fun column _ =>
      ⟨trivial, column.type.json_integral, trivial, trivial⟩

theorem TypedQuery.jsonList_integral (queries : List TypedQuery) : (jsonList queries).Integral :=
  Json.integralItems_map queries fun query _ => query.json_integral

namespace Manifest

theorem document_integral (queryFile : FilePath) (queries : List TypedQuery) :
    (document queryFile queries).Integral :=
  ⟨trivial, TypedQuery.jsonList_integral queries, trivial⟩

/-- The query file's name and the queries of a manifest. -/
def contents? (manifest : Json) : Option (String × List TypedQuery) := do
  let source ← manifest.textAt? "source"
  let queries ← manifest.member? "queries"
  match Check.tuple TypedQuery.check (Datum.ofJson queries) with
  | .ok queries => some (source, queries)
  | .error _ => none

theorem contents?_document (queryFile : FilePath) (queries : List TypedQuery) :
    contents? (document queryFile queries) = some (queryFile.name, queries) := by
  have source : (document queryFile queries).textAt? "source" = some queryFile.name := by rfl
  have member : (document queryFile queries).member? "queries" =
      some (TypedQuery.jsonList queries) := by rfl
  simp [contents?, source, member, TypedQuery.check_jsonList]

theorem render_documentText (queryFile : FilePath) (queries : List TypedQuery) :
    Json.DocumentText (document queryFile queries) (render queryFile queries).toList :=
  Json.documentText_line (Json.pretty_documentText (document_integral queryFile queries))

theorem render_ascii (queryFile : FilePath) (queries : List TypedQuery) :
    Json.Ascii (render queryFile queries).toList := by
  rw [render, String.toList_append, Json.ascii_append]
  exact ⟨Json.pretty_ascii _, by simp⟩

end Manifest

/-- A report in JSON writes the list of queries, in both of its layouts. -/
theorem ReportFormat.report_json_writes (compact : Bool) (terminal : Nat)
    (queries : List TypedQuery) :
    ∃ report, (ReportFormat.json compact).report terminal queries = .ok report ∧
      (TypedQuery.jsonList queries).IsWrittenBy report := by
  have integral := TypedQuery.jsonList_integral queries
  cases compact with
  | true =>
    have written := Json.documentText_line (Json.compact_documentText integral)
    exact ⟨_, rfl, Json.isWrittenBy_of_documentText written⟩
  | false =>
    have written := Json.documentText_line (Json.pretty_documentText integral)
    exact ⟨_, rfl, Json.isWrittenBy_of_documentText written⟩

/-- The text of a manifest is a line of ASCII that writes one object: the name of the query file
under `source` and the queries under `queries`, from which both are got back.  A report in JSON
writes the same queries value. -/
theorem Manifest.manifest_reads_back (queryFile : FilePath) (queries : List TypedQuery) :
    Json.Ascii (render queryFile queries).toList ∧
      (render queryFile queries).toList.getLast? = some '\n' ∧
      (Json.parse? (render queryFile queries)).bind contents? = some (queryFile.name, queries) ∧
      ∃ value,
        (Json.object [("source", .text queryFile.name), ("queries", value)]).IsWrittenBy
          (render queryFile queries) ∧
        ∀ compact terminal, ∃ report,
          (ReportFormat.json compact).report terminal queries = .ok report ∧
          value.IsWrittenBy report := by
  have written := render_documentText queryFile queries
  have read := Json.parse?_complete written
  rw [String.ofList_toList] at read
  refine ⟨render_ascii queryFile queries, ?_, ?_, TypedQuery.jsonList queries, ?_, ?_⟩
  · simp [render]
  · rw [read]
    exact contents?_document queryFile queries
  · exact Json.isWrittenBy_of_documentText written
  · exact fun compact terminal => ReportFormat.report_json_writes compact terminal queries

end QueryTyping
