import GraphSchema.Assembly.Queries
import GraphSchema.Proofs.Outcome

/-!
What a bound query is made of. Each of the functions that bind a query is read backwards once here,
so that what holds of arguments, results and queries is a case analysis over the ways in which they
come about.
-/

namespace GraphSchema

def annotatedQueries (queries : List Query) : List AnnotatedQuery :=
  queries.filterMap AnnotatedQuery.ofQuery?

theorem as_struct_ok {outcome : Except GenerateError StructBinding} {made : Option Binding}
    (succeeded : outcome.map (fun binding => some (Binding.struct binding)) = .ok made) :
    ∃ binding, outcome = .ok binding ∧ made = some (.struct binding) := by
  obtain ⟨binding, built, same⟩ := Outcome.map_ok succeeded
  exact ⟨binding, built, same.symm⟩

/-- An alias is a directive; all else of the field stays. -/
theorem with_alias_directive (field : Field) :
    ∃ directive, withAlias field = { field with directive } := by
  unfold withAlias
  split
  · exact ⟨field.directive, rfl⟩
  · split
    · exact ⟨field.directive, rfl⟩
    · exact ⟨_, rfl⟩

namespace Scope

variable {scope : Scope} {structs : List Struct} {annotated : AnnotatedQuery}

theorem row_ok {name modelPath : String} {sources : List FieldSource} {struct : Struct}
    (made : scope.row name modelPath sources = .ok struct) :
    typeConflict? (scope.rowFields name sources) = none ∧
      struct = {
        name
        fields := scope.rowFields name sources
        directive := scope.directives name ""
        modelPath } := by
  simp only [row] at made
  cases conflict : typeConflict? (scope.rowFields name sources) with
  | none =>
      rw [conflict] at made
      exact ⟨rfl, (Except.ok.inj made).symm⟩
  | some found =>
      rw [conflict] at made
      cases made

/-- The fields of an input struct, with the aliases of a paginated one. -/
def inputFields (scope : Scope) (annotated : AnnotatedQuery) : List Field :=
  let fields := scope.rowFields (inputName annotated) (scope.argumentSources annotated)
  if annotated.pagination.isSome then fields.map withAlias else fields

theorem struct_argument_ok {binding : StructBinding}
    (made : scope.structArgument annotated = .ok binding) :
    typeConflict? (scope.rowFields (inputName annotated) (scope.argumentSources annotated)) = none ∧
      binding = {
        name := "request"
        struct := {
          name := inputName annotated
          fields := scope.inputFields annotated
          directive := scope.directives (inputName annotated) ""
          modelPath := scope.modelPath (annotated.query.name ++ "Params") }
        emit := scope.options.queryParameterLimit < (scope.argumentSources annotated).length
        modelPath := scope.modelPath (annotated.query.name ++ "Params") } := by
  obtain ⟨input, built, assembled⟩ := Outcome.bind_ok made
  obtain ⟨free, rfl⟩ := row_ok built
  exact ⟨free, (Except.ok.inj assembled).symm⟩

theorem argument_cases {argument : Option Binding}
    (made : scope.argument annotated = .ok argument) :
    (annotated.pagination = none ∧ annotated.query.params = [] ∧ argument = none) ∨
      (∃ parameter, annotated.pagination = none ∧ annotated.query.params = [parameter] ∧
        scope.options.queryParameterLimit ≠ 0 ∧
        argument = some (.scalar (scope.scalarArgument parameter))) ∨
      ∃ binding, scope.structArgument annotated = .ok binding ∧
        argument = some (.struct binding) := by
  unfold Scope.argument at made
  split at made
  · rename_i unpaginated empty
    exact Or.inl ⟨unpaginated, empty, (Except.ok.inj made).symm⟩
  · rename_i parameter unpaginated lone
    split at made
    · exact Or.inr (Or.inr (as_struct_ok made))
    · rename_i admitted
      exact Or.inr (Or.inl ⟨parameter, unpaginated, lone, admitted, (Except.ok.inj made).symm⟩)
  · exact Or.inr (Or.inr (as_struct_ok made))

theorem row_result_ok {binding : StructBinding}
    (made : scope.rowResult structs annotated = .ok binding) :
    ∃ name, binding.emit = true ∧
      scope.row name (scope.modelPath (annotated.query.name ++ "Row"))
        (scope.resultSources structs 0 annotated.query.columns) = .ok binding.struct := by
  obtain ⟨row, built, assembled⟩ := Outcome.bind_ok made
  cases assembled
  exact ⟨_, rfl, built⟩

/-- A struct result is the copy of a model that the columns match, or a row of its own. -/
theorem struct_result_cases {binding : StructBinding}
    (made : scope.structResult structs annotated = .ok binding) :
    (∃ model, scope.matchingModel? structs annotated.query.columns = some model ∧
      binding = scope.modelResult annotated.query model) ∨
      (scope.matchingModel? structs annotated.query.columns = none ∧
        scope.rowResult structs annotated = .ok binding) := by
  unfold structResult at made
  cases matched : scope.matchingModel? structs annotated.query.columns with
  | none =>
      rw [matched] at made
      exact Or.inr ⟨rfl, made⟩
  | some model =>
      rw [matched] at made
      exact Or.inl ⟨model, rfl, (Except.ok.inj made).symm⟩

theorem result_cases {result : Option Binding}
    (made : scope.result structs annotated = .ok result) :
    (annotated.query.columns = [] ∧ result = none) ∨
      (∃ column, annotated.query.columns = [column] ∧ column.embedTable = none ∧
        result = some (.scalar (scope.scalarResult annotated.query column))) ∨
      ∃ binding, scope.structResult structs annotated = .ok binding ∧
        result = some (.struct binding) := by
  unfold Scope.result at made
  split at made
  · rename_i empty
    exact Or.inl ⟨empty, (Except.ok.inj made).symm⟩
  · rename_i column lone
    split at made
    · rename_i plain
      exact Or.inr (Or.inl ⟨column, lone, Option.isNone_iff_eq_none.1 plain,
        (Except.ok.inj made).symm⟩)
    · exact Or.inr (Or.inr (as_struct_ok made))
  · exact Or.inr (Or.inr (as_struct_ok made))

theorem struct_argument_made {binding : StructBinding}
    (made : scope.argument annotated = .ok (some (.struct binding))) :
    scope.structArgument annotated = .ok binding := by
  rcases argument_cases made with ⟨_, _, absent⟩ | ⟨_, _, _, _, lone⟩ | ⟨_, built, same⟩
  · cases absent
  · cases lone
  · cases same
    exact built

theorem struct_result_made {binding : StructBinding}
    (made : scope.result structs annotated = .ok (some (.struct binding))) :
    scope.structResult structs annotated = .ok binding := by
  rcases result_cases made with ⟨_, absent⟩ | ⟨_, _, _, lone⟩ | ⟨_, built, same⟩
  · cases absent
  · cases lone
  · cases same
    exact built

/-- How the parts of a bound query come from those of an annotated one. -/
structure BindsTo (scope : Scope) (structs : List Struct) (annotated : AnnotatedQuery)
    (query : BoundQuery) : Prop where
  argument : scope.argument annotated = .ok query.argument
  result : (annotated.command.returnsRows = false ∧ query.result = none) ∨
    (annotated.command.returnsRows = true ∧ scope.result structs annotated = .ok query.result)
  pagination : query.pagination = annotated.pagination
  command : query.command = annotated.command
  methodName : query.methodName = annotated.query.name
  sourceName : query.sourceName = annotated.query.filename

theorem binds_to_of_bind {query : BoundQuery}
    (bound : scope.bind structs annotated = .ok query) :
    scope.BindsTo structs annotated query := by
  obtain ⟨argument, argumentMade, remaining⟩ := Outcome.bind_ok bound
  cases rows : annotated.command.returnsRows with
  | false =>
      rw [rows] at remaining
      cases remaining
      exact ⟨argumentMade, Or.inl ⟨rows, rfl⟩, rfl, rfl, rfl, rfl⟩
  | true =>
      rw [rows] at remaining
      obtain ⟨result, resultMade, assembled⟩ := Outcome.bind_ok remaining
      cases assembled
      exact ⟨argumentMade, Or.inr ⟨rows, resultMade⟩, rfl, rfl, rfl, rfl⟩

theorem bind_queries_ok {queries : List Query} {bound : List BoundQuery}
    (succeeded : scope.bindQueries structs queries = .ok bound) :
    ∃ inOrder, List.Forall₂ (fun annotated query => scope.bind structs annotated = .ok query)
      (annotatedQueries queries) inOrder ∧ bound = Text.sortBy BoundQuery.methodName inOrder := by
  obtain ⟨inOrder, mapped, sorted⟩ := Outcome.bind_ok succeeded
  exact ⟨inOrder, Outcome.map_list_ok mapped, (Except.ok.inj sorted).symm⟩

theorem bound_query_origin {queries : List Query} {bound : List BoundQuery}
    (succeeded : scope.bindQueries structs queries = .ok bound) {query : BoundQuery}
    (member : query ∈ bound) :
    ∃ annotated ∈ annotatedQueries queries, scope.BindsTo structs annotated query := by
  obtain ⟨inOrder, paired, rfl⟩ := bind_queries_ok succeeded
  have unsorted := (Text.perm_sortBy BoundQuery.methodName inOrder).mem_iff.1 member
  obtain ⟨annotated, among, bound⟩ := Outcome.exists_item paired unsorted
  exact ⟨annotated, among, binds_to_of_bind bound⟩

theorem bound_result_origin {queries : List Query} {bound : List BoundQuery}
    (succeeded : scope.bindQueries structs queries = .ok bound) {query : BoundQuery}
    (member : query ∈ bound) {binding : Binding} (found : query.result = some binding) :
    ∃ annotated ∈ annotatedQueries queries,
      scope.result structs annotated = .ok (some binding) := by
  obtain ⟨annotated, among, binds⟩ := bound_query_origin succeeded member
  rcases binds.result with ⟨_, absent⟩ | ⟨_, made⟩
  · rw [absent] at found
    cases found
  · exact ⟨annotated, among, found ▸ made⟩

theorem annotated_query_made {queries : List Query} {bound : List BoundQuery}
    (succeeded : scope.bindQueries structs queries = .ok bound)
    (member : annotated ∈ annotatedQueries queries) :
    ∃ query ∈ bound, scope.bind structs annotated = .ok query := by
  obtain ⟨inOrder, paired, rfl⟩ := bind_queries_ok succeeded
  obtain ⟨query, among, made⟩ := Outcome.exists_result paired member
  exact ⟨query, (Text.perm_sortBy BoundQuery.methodName inOrder).mem_iff.2 among, made⟩

theorem annotated_query_bound {queries : List Query} {bound : List BoundQuery}
    (succeeded : scope.bindQueries structs queries = .ok bound)
    (member : annotated ∈ annotatedQueries queries) :
    ∃ query ∈ bound, scope.BindsTo structs annotated query := by
  obtain ⟨query, among, made⟩ := annotated_query_made succeeded member
  exact ⟨query, among, binds_to_of_bind made⟩

end Scope

end GraphSchema
