import GraphSchema.Proofs.RenderedTypes
import GraphSchema.Proofs.RowOutcome

/-!
When a generation ends because two fields of one name have different types. The queries of a request
are bound in their order, each with its argument before its result, and every struct made from
columns on the way is checked; the first one that is refused ends the generation. The check compares
types by what they are. The main result tells when the two that it reports also read differently.
-/

namespace GraphSchema

theorem find_some_flat_map {Item Part Result : Type} (parts : Item → List Part)
    (search : Part → Option Result) (items : List Item) :
    (items.flatMap parts).findSome? search =
      items.findSome? fun item => (parts item).findSome? search := by
  induction items with
  | nil => rfl
  | cons item rest ih =>
      rw [List.flatMap_cons, List.findSome?_append, List.findSome?_cons, ih]
      cases (parts item).findSome? search <;> rfl

/-- A struct that a query has made from columns. -/
structure QueryRow where
  name : String
  sources : List FieldSource

def QueryRow.fields (row : QueryRow) (scope : Scope) : List Field :=
  scope.rowFields row.name row.sources

namespace Scope

variable {scope : Scope} {structs : List Struct} {annotated : AnnotatedQuery}

def rowError? (scope : Scope) (row : QueryRow) : Option GenerateError :=
  (typeConflict? (row.fields scope)).map fun (field, first, second) =>
    .incompatibleFieldTypes row.name field first second

def inputRow (scope : Scope) (annotated : AnnotatedQuery) : QueryRow where
  name := inputName annotated
  sources := scope.argumentSources annotated

/-- The row of a query's parameters, unless it has none or one that is taken alone. -/
def argumentRows (scope : Scope) (annotated : AnnotatedQuery) : List QueryRow :=
  match annotated.pagination, annotated.query.params with
  | none, [] => []
  | none, [_] => if scope.options.queryParameterLimit = 0 then [scope.inputRow annotated] else []
  | _, _ => [scope.inputRow annotated]

/-- The row of a query's columns, unless they are those of a model. -/
def columnRows (scope : Scope) (structs : List Struct) (annotated : AnnotatedQuery) :
    List QueryRow :=
  match scope.matchingModel? structs annotated.query.columns with
  | some _ => []
  | none => [{
      name := annotated.binding.returnType.getD (annotated.query.name ++ "Row")
      sources := scope.resultSources structs 0 annotated.query.columns }]

/-- The row of a query's result, unless it has no columns or one that holds a single value. -/
def resultRows (scope : Scope) (structs : List Struct) (annotated : AnnotatedQuery) :
    List QueryRow :=
  match annotated.query.columns with
  | [] => []
  | [column] => if column.embedTable.isNone then [] else scope.columnRows structs annotated
  | _ => scope.columnRows structs annotated

def queryRows (scope : Scope) (structs : List Struct) (annotated : AnnotatedQuery) :
    List QueryRow :=
  scope.argumentRows annotated ++
    if annotated.command.returnsRows then scope.resultRows structs annotated else []

def rows (scope : Scope) (queries : List Query) : List QueryRow :=
  (annotatedQueries queries).flatMap (scope.queryRows scope.models)

structure FirstRefused (scope : Scope) (rows : List QueryRow) (row : QueryRow)
    (first second : Field) : Prop where
  reached : ∃ before after, rows = before ++ row :: after ∧
    ∀ earlier ∈ before, FieldsAgree (earlier.fields scope)
  conflict : ∃ place, FirstConflict (row.fields scope) place first second

theorem row_error_eq_none_iff {row : QueryRow} :
    scope.rowError? row = none ↔ FieldsAgree (row.fields scope) := by
  rw [rowError?, Option.map_eq_none_iff, type_conflict_none_iff]

theorem row_error_eq_some_iff {row : QueryRow} {error : GenerateError} :
    scope.rowError? row = some error ↔
      ∃ place first second, FirstConflict (row.fields scope) place first second ∧
        error = .incompatibleFieldTypes row.name second.name first.type second.type := by
  rw [rowError?, Option.map_eq_some_iff]
  constructor
  · rintro ⟨conflict, found, rfl⟩
    obtain ⟨place, first, second, leads, rfl⟩ := type_conflict_eq_some_iff.1 found
    exact ⟨place, first, second, leads, rfl⟩
  · rintro ⟨place, first, second, leads, rfl⟩
    exact ⟨_, type_conflict_eq_some_iff.2 ⟨place, first, second, leads, rfl⟩, rfl⟩

theorem first_error_iff {rows : List QueryRow} {error : GenerateError} :
    rows.findSome? scope.rowError? = some error ↔
      ∃ row first second, scope.FirstRefused rows row first second ∧
        error = .incompatibleFieldTypes row.name second.name first.type second.type := by
  rw [List.findSome?_eq_some_iff]
  constructor
  · rintro ⟨before, row, after, split, refused, passed⟩
    obtain ⟨place, first, second, leads, same⟩ := row_error_eq_some_iff.1 refused
    refine ⟨row, first, second, ⟨⟨before, after, split, ?_⟩, place, leads⟩, same⟩
    intro earlier member
    exact row_error_eq_none_iff.1 (passed earlier member)
  · rintro ⟨row, first, second, ⟨⟨before, after, split, agree⟩, place, leads⟩, same⟩
    refine ⟨before, row, after, split,
      row_error_eq_some_iff.2 ⟨place, first, second, leads, same⟩, ?_⟩
    intro earlier member
    exact row_error_eq_none_iff.2 (agree earlier member)

section Failures

open Outcome

theorem row_failure (name modelPath : String) (sources : List FieldSource) :
    failure? (scope.row name modelPath sources) = scope.rowError? { name, sources } := by
  simp only [row, rowError?, QueryRow.fields]
  cases typeConflict? (scope.rowFields name sources) <;> rfl

theorem struct_argument_failure :
    failure? (scope.structArgument annotated) = scope.rowError? (scope.inputRow annotated) :=
  (failure_of_first fun _ => rfl).trans (row_failure _ _ _)

theorem argument_failure :
    failure? (scope.argument annotated) =
      (scope.argumentRows annotated).findSome? scope.rowError? := by
  have made : failure? ((scope.structArgument annotated).map fun binding =>
      some (Binding.struct binding)) = [scope.inputRow annotated].findSome? scope.rowError? := by
    rw [failure_of_map, struct_argument_failure, List.findSome?_singleton]
  unfold argument argumentRows
  cases annotated.pagination with
  | some mode => exact made
  | none =>
      match annotated.query.params with
      | [] => rfl
      | [parameter] =>
          by_cases single : scope.options.queryParameterLimit = 0
          · simp only [if_pos single]
            exact made
          · simp only [if_neg single]
            rfl
      | _ :: _ :: _ => exact made

theorem struct_result_failure :
    failure? (scope.structResult structs annotated) =
      (scope.columnRows structs annotated).findSome? scope.rowError? := by
  unfold structResult columnRows
  cases scope.matchingModel? structs annotated.query.columns with
  | some model => rfl
  | none =>
      rw [List.findSome?_singleton]
      exact (failure_of_first fun _ => rfl).trans (row_failure _ _ _)

theorem result_failure :
    failure? (scope.result structs annotated) =
      (scope.resultRows structs annotated).findSome? scope.rowError? := by
  have made : failure? ((scope.structResult structs annotated).map fun binding =>
      some (Binding.struct binding)) =
        (scope.columnRows structs annotated).findSome? scope.rowError? :=
    (failure_of_map _ _).trans struct_result_failure
  unfold result resultRows
  match annotated.query.columns with
  | [] => rfl
  | [column] =>
      by_cases plain : column.embedTable.isNone = true
      · simp only [if_pos plain]
        rfl
      · simp only [if_neg plain]
        exact made
  | _ :: _ :: _ => exact made

theorem bind_failure :
    failure? (scope.bind structs annotated) =
      (scope.queryRows structs annotated).findSome? scope.rowError? := by
  rw [queryRows, List.findSome?_append, ← argument_failure]
  apply failure_of_bind
  intro argument
  by_cases returns : annotated.command.returnsRows = true
  · simp only [if_pos returns, ← result_failure]
    exact failure_of_first fun _ => rfl
  · simp only [if_neg returns]
    rfl

theorem bind_queries_failure (queries : List Query) :
    failure? (scope.bindQueries scope.models queries) =
      (scope.rows queries).findSome? scope.rowError? := by
  have bound : failure? (scope.bindQueries scope.models queries) =
      failure? ((annotatedQueries queries).mapM (scope.bind scope.models)) :=
    failure_of_first fun _ => rfl
  rw [bound, failure_of_each, rows, find_some_flat_map]
  simp only [bind_failure]

end Failures

end Scope

theorem push_struct_error {structs : List Struct} {candidate : Struct} {error : GenerateError}
    (failed : pushStruct structs candidate = .error error) :
    error = .duplicateStruct candidate.name := by
  unfold pushStruct at failed
  split at failed
  · split at failed
    · cases failed
    · exact (Except.error.inj failed).symm
  · cases failed

theorem push_all_error {candidates structs : List Struct} {error : GenerateError}
    (failed : candidates.foldlM pushStruct structs = .error error) :
    ∃ name, error = .duplicateStruct name := by
  induction candidates generalizing structs with
  | nil => cases failed
  | cons candidate rest ih =>
      rw [List.foldlM_cons] at failed
      rcases Outcome.bind_error_iff.1 failed with first | ⟨_, _, later⟩
      · exact ⟨candidate.name, push_struct_error first⟩
      · exact ih later

theorem check_error {model : Model} {error : GenerateError}
    (failed : model.check = .error error) : ∃ name, error = .nameConflict name := by
  unfold Model.check at failed
  split at failed
  · rename_i struct _
    exact ⟨struct.name, (Except.error.inj failed).symm⟩
  · cases failed

theorem types_reported_by_binding {request : Request} {options : ResolvedOptions}
    {row field : String} {first second : TypeRef}
    (failed : generateWith request options =
      .error (.incompatibleFieldTypes row field first second)) :
    (Scope.ofRequest request options).bindQueries (Scope.ofRequest request options).models
      request.queries = .error (.incompatibleFieldTypes row field first second) := by
  rcases Outcome.bind_error_iff.1 failed with unassembled | ⟨assembled, _, later⟩
  · rcases Outcome.bind_error_iff.1 unassembled with unbound | ⟨queries, _, later⟩
    · exact unbound
    · rcases Outcome.bind_error_iff.1 later with unfed | ⟨structs, _, finished⟩
      · obtain ⟨name, duplicate⟩ := push_all_error unfed
        cases duplicate
      · cases finished
  · rcases Outcome.bind_error_iff.1 later with unchecked | ⟨_, _, finished⟩
    · obtain ⟨name, conflict⟩ := check_error unchecked
      cases conflict
    · cases finished

/-- A generation reports two types exactly if they are those of the first row that is refused. -/
theorem generation_refused_iff {request : Request} {options : ResolvedOptions}
    {row field : String} {first second : TypeRef} :
    generateWith request options = .error (.incompatibleFieldTypes row field first second) ↔
      ∃ refused leading other, (Scope.ofRequest request options).FirstRefused
          ((Scope.ofRequest request options).rows request.queries) refused leading other ∧
        GenerateError.incompatibleFieldTypes row field first second =
          .incompatibleFieldTypes refused.name other.name leading.type other.type := by
  rw [← Scope.first_error_iff, ← Scope.bind_queries_failure, Outcome.failure_eq_some_iff]
  constructor
  · exact types_reported_by_binding
  · intro unbound
    exact Outcome.bind_error_iff.2 (Or.inl (Outcome.bind_error_iff.2 (Or.inl unbound)))

/-- Whenever a generation reports two types, they read differently. -/
def ConflictsDiffer (request : Request) (options : ResolvedOptions) : Prop :=
  ∀ (row field : String) (first second : TypeRef),
    generateWith request options = .error (.incompatibleFieldTypes row field first second) →
      first.render ≠ second.render

/-- No type that columns and models can name is spelled as a scalar or ends in a mark. -/
def Scope.NamesPlain (scope : Scope) : Prop :=
  ∀ name, scope.ResultTypeName name → (Scalar.named name).isPlain = true

theorem Scope.argument_row_sources {scope : Scope} {annotated : AnnotatedQuery} {row : QueryRow}
    (member : row ∈ scope.argumentRows annotated) : row = scope.inputRow annotated := by
  unfold argumentRows at member
  split at member
  · cases member
  · split at member
    · exact List.mem_singleton.1 member
    · cases member
  · exact List.mem_singleton.1 member

theorem Scope.result_row_sources {scope : Scope} {structs : List Struct}
    {annotated : AnnotatedQuery} {row : QueryRow}
    (member : row ∈ scope.resultRows structs annotated) :
    row.sources = scope.resultSources structs 0 annotated.query.columns := by
  have ofColumns (among : row ∈ scope.columnRows structs annotated) :
      row.sources = scope.resultSources structs 0 annotated.query.columns := by
    unfold columnRows at among
    split at among
    · cases among
    · rw [List.mem_singleton.1 among]
  unfold resultRows at member
  split at member
  · cases member
  · split at member
    · cases member
    · exact ofColumns member
  · exact ofColumns member

theorem Scope.row_types_bear {scope : Scope} {queries : List Query} {row : QueryRow}
    (member : row ∈ scope.rows queries) {field : Field} (among : field ∈ row.fields scope) :
    field.type.Bears scope.ResultTypeName := by
  obtain ⟨source, sourceMember, typed⟩ :=
    row_field_types among field.type List.mem_cons_self
  obtain ⟨annotated, _, made⟩ := List.mem_flatMap.1 member
  rcases List.mem_append.1 made with ofArgument | ofResult
  · rw [argument_row_sources ofArgument] at sourceMember
    exact (argument_source_types_bear sourceMember _ typed).imp fun _ => Or.inl
  · split at ofResult
    · rw [result_row_sources ofResult] at sourceMember
      exact result_source_types_bear sourceMember _ typed
    · cases ofResult

theorem Scope.NamesPlain.type {scope : Scope} (plain : scope.NamesPlain) {type : TypeRef}
    (bears : type.Bears scope.ResultTypeName) : type.scalar.isPlain = true := by
  rcases type.scalar.named_or_builtin with named | builtin
  · rw [named]
    exact plain _ (bears _ named)
  · exact Scalar.plain_of_builtin builtin

namespace Scope.FirstRefused

variable {scope : Scope} {rows : List QueryRow} {row : QueryRow} {first second : Field}

theorem row_mem (refused : scope.FirstRefused rows row first second) : row ∈ rows := by
  obtain ⟨before, after, rfl, _⟩ := refused.reached
  exact List.mem_append_right _ List.mem_cons_self

theorem fields_mem (refused : scope.FirstRefused rows row first second) :
    first ∈ row.fields scope ∧ second ∈ row.fields scope := by
  obtain ⟨_, conflict⟩ := refused.conflict
  exact ⟨List.mem_of_find?_eq_some conflict.leading, List.mem_of_getElem? conflict.located⟩

/-- The two types differ, so they read alike only if one of them mimics the other. -/
theorem same_text_iff (refused : scope.FirstRefused rows row first second) :
    first.type.render = second.type.render ↔
      first.type.Mimics second.type ∨ second.type.Mimics first.type := by
  obtain ⟨_, conflict⟩ := refused.conflict
  rw [TypeRef.render_eq_iff]
  constructor
  · rintro (same | mimics)
    · exact absurd same conflict.differ
    · exact mimics
  · exact Or.inr

end Scope.FirstRefused

theorem conflicts_differ_of_refused {request : Request} {options : ResolvedOptions}
    (differ : ∀ row first second, (Scope.ofRequest request options).FirstRefused
      ((Scope.ofRequest request options).rows request.queries) row first second →
        first.type.render ≠ second.type.render) : ConflictsDiffer request options := by
  intro row field first second failed
  obtain ⟨refused, leading, other, conflict, same⟩ := generation_refused_iff.1 failed
  cases same
  exact differ refused leading other conflict

/-- The reported types read differently exactly if neither of the two in the first row that is
refused mimics the other. This holds whenever the names of overrides, enums and models are plain. -/
theorem conflicts_differ_iff (request : Request) (options : ResolvedOptions) :
    (ConflictsDiffer request options ↔
      ∀ row first second, (Scope.ofRequest request options).FirstRefused
          ((Scope.ofRequest request options).rows request.queries) row first second →
        ¬first.type.Mimics second.type ∧ ¬second.type.Mimics first.type) ∧
      ((Scope.ofRequest request options).NamesPlain → ConflictsDiffer request options) := by
  constructor
  · constructor
    · intro differ row first second refused
      have apart := differ _ _ _ _ (generation_refused_iff.2 ⟨row, first, second, refused, rfl⟩)
      exact not_or.1 (mt refused.same_text_iff.2 apart)
    · intro real
      apply conflicts_differ_of_refused
      intro row first second refused same
      rcases refused.same_text_iff.1 same with mimics | mimics
      · exact (real row first second refused).1 mimics
      · exact (real row first second refused).2 mimics
  · intro plain
    apply conflicts_differ_of_refused
    intro row first second refused same
    obtain ⟨firstMember, secondMember⟩ := refused.fields_mem
    rcases refused.same_text_iff.1 same with mimics | mimics
    · have named := plain.type (Scope.row_types_bear refused.row_mem firstMember)
      exact TypeRef.not_mimics_of_plain named _ mimics
    · have named := plain.type (Scope.row_types_bear refused.row_mem secondMember)
      exact TypeRef.not_mimics_of_plain named _ mimics

def compareSizes (nativeType : String) : Request where
  queries := [{
    name := "CompareSizes"
    command := some .exec
    params := [
      { number := 1, column := { plainColumn none "size" "int4" with isNamedParam := true } },
      { number := 2, column := { plainColumn none "size" nativeType with isNamedParam := true } }]
    comments := ["gql: Mutation.compareSizes"] }]

theorem sizes_and_texts_read_differently :
    Outcome.failure? (generateWith (compareSizes "text") { package := "db" }) =
        some (.incompatibleFieldTypes "CompareSizesInput" "Size"
          { scalar := .int, nonNull := true } { scalar := .string, nonNull := true }) ∧
      ConflictsDiffer (compareSizes "text") { package := "db" } := by
  constructor
  · decide +kernel
  · apply (conflicts_differ_iff _ _).2
    rintro name ((declared | rfl | ⟨rule, member, _⟩) | model)
    · cases declared
    · decide +kernel
    · cases member
    · cases model

def longNumbers : ResolvedOptions where
  package := "db"
  overrides := { rules := [
    { gqlType := "Int", target := .dbType none "int8", nullable := none, unsigned := none }] }

/-- The generation ends because of a field that is an `Int!` in both places. -/
theorem sizes_and_long_sizes_read_alike :
    ¬ConflictsDiffer (compareSizes "int8") longNumbers := by
  have failed : Outcome.failure? (generateWith (compareSizes "int8") longNumbers) =
      some (.incompatibleFieldTypes "CompareSizesInput" "Size"
        { scalar := .int, nonNull := true } (.named "Int")) := by
    decide +kernel
  intro differ
  exact differ _ _ _ _ (Outcome.failure_eq_some_iff.1 failed) rfl

end GraphSchema
