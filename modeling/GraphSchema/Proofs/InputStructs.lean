import GraphSchema.Proofs.Generation

/-!
When the structs that queries write as types of their own can stand side by side. Results are fed
back into the catalog, which compares each with the struct that has its name. Input structs are not:
their names come from resolvers alone, and two resolvers of one name, in different operation types,
yield one input name. The main result says what has to hold of the inputs of a request for no two
emitted structs of one name to differ.
-/

namespace GraphSchema

def Binding.emitted? : Binding → Option Struct
  | scalar _ => none
  | struct binding => if binding.emit then some binding.struct else none

theorem emitted_eq_some_iff {binding : Option Binding} {struct : Struct} :
    binding.bind Binding.emitted? = some struct ↔
      ∃ found, binding = some (.struct found) ∧ found.emit = true ∧ found.struct = struct := by
  cases binding with
  | none => simp
  | some binding => cases binding <;> simp [Binding.emitted?]

namespace Model

def emittedArguments (model : Model) : List Struct :=
  model.queries.filterMap fun query => query.argument.bind Binding.emitted?

def emittedResults (model : Model) : List Struct :=
  model.queries.filterMap fun query => query.result.bind Binding.emitted?

/-- No two emitted structs of one name differ in shape, and no emitted argument has the name of an
enum or of a struct that has another shape. -/
structure EmittedAgree (model : Model) : Prop where
  together : ∀ left ∈ model.emittedArguments ++ model.emittedResults,
    ∀ right ∈ model.emittedArguments ++ model.emittedResults,
      left.name = right.name → left.sameShape right = true
  enumsFree : ∀ input ∈ model.emittedArguments, input.name ∉ model.enums.map EnumType.name
  withStructs : ∀ input ∈ model.emittedArguments, ∀ struct ∈ model.structs,
    struct.name = input.name → struct.sameShape input = true

end Model

namespace Scope

def inputShape (scope : Scope) (annotated : AnnotatedQuery) : List (String × TypeRef) :=
  (scope.rowFields (inputName annotated) (scope.argumentSources annotated)).map fun field =>
    (field.name, field.type)

/-- The queries of a request with more parameters, those of pagination included, than are taken one
by one. -/
def overLimit (scope : Scope) (queries : List Query) : List AnnotatedQuery :=
  (annotatedQueries queries).filter fun annotated =>
    scope.options.queryParameterLimit <
      annotated.query.params.length + if annotated.pagination.isSome then 2 else 0

/-- The inputs over the limit that share a name share a shape, and none of them has the name of an
enum of the model, or of a struct of the model that has another shape. -/
structure InputsAgree (scope : Scope) (queries : List Query) (model : Model) : Prop where
  together : ∀ left ∈ scope.overLimit queries, ∀ right ∈ scope.overLimit queries,
    inputName left = inputName right → scope.inputShape left = scope.inputShape right
  enumsFree : ∀ annotated ∈ scope.overLimit queries,
    inputName annotated ∉ model.enums.map EnumType.name
  withStructs : ∀ annotated ∈ scope.overLimit queries, ∀ struct ∈ model.structs,
    struct.name = inputName annotated → struct.shape = scope.inputShape annotated

theorem argument_sources_length (scope : Scope) (annotated : AnnotatedQuery) :
    (scope.argumentSources annotated).length =
      annotated.query.params.length + if annotated.pagination.isSome then 2 else 0 := by
  unfold argumentSources
  cases annotated.pagination with
  | none => simp
  | some mode => cases mode <;> simp [Pagination.parameters]

theorem input_fields_shape (scope : Scope) (annotated : AnnotatedQuery) :
    ((scope.inputFields annotated).map fun field => (field.name, field.type)) =
      scope.inputShape annotated := by
  unfold inputFields inputShape
  split
  · rw [List.map_map]
    refine List.map_congr_left fun field _ => ?_
    obtain ⟨directive, same⟩ := with_alias_directive field
    simp only [Function.comp_apply, same]
  · rfl

theorem struct_argument_shape {scope : Scope} {annotated : AnnotatedQuery}
    {binding : StructBinding} (made : scope.structArgument annotated = .ok binding) :
    binding.struct.name = inputName annotated ∧
      binding.struct.shape = scope.inputShape annotated ∧
      (binding.emit = true ↔ scope.options.queryParameterLimit <
        annotated.query.params.length + if annotated.pagination.isSome then 2 else 0) := by
  obtain ⟨_, rfl⟩ := struct_argument_ok made
  refine ⟨rfl, scope.input_fields_shape annotated, ?_⟩
  rw [← argument_sources_length]
  exact decide_eq_true_iff

theorem argument_emitted_iff {scope : Scope} {annotated : AnnotatedQuery}
    {argument : Option Binding} (made : scope.argument annotated = .ok argument) :
    (∃ binding, argument = some (.struct binding) ∧ binding.emit = true ∧
        scope.structArgument annotated = .ok binding) ↔
      scope.options.queryParameterLimit <
        annotated.query.params.length + if annotated.pagination.isSome then 2 else 0 := by
  rcases argument_cases made with ⟨unpaginated, empty, rfl⟩ |
    ⟨parameter, unpaginated, lone, admitted, rfl⟩ | ⟨binding, built, rfl⟩
  · simp [unpaginated, empty]
  · simp only [unpaginated, lone, List.length_singleton, Option.isSome_none]
    constructor
    · rintro ⟨binding, same, _⟩
      cases same
    · intro exceeding
      have : scope.options.queryParameterLimit = 0 := by simpa using exceeding
      exact absurd this admitted
  · rw [← (struct_argument_shape built).2.2]
    constructor
    · rintro ⟨other, same, emitted, _⟩
      cases same
      exact emitted
    · intro emitted
      exact ⟨binding, rfl, emitted, built⟩

end Scope

namespace Generated

variable {request : Request} {options : ResolvedOptions} {fed : List Struct} {output : Output}

theorem emitted_argument_iff (generated : Generated request options fed output) (name : String)
    (shape : List (String × TypeRef)) :
    (∃ input ∈ output.emittedArguments, input.name = name ∧ input.shape = shape) ↔
      ∃ annotated ∈ (Scope.ofRequest request options).overLimit request.queries,
        Scope.inputName annotated = name ∧
          (Scope.ofRequest request options).inputShape annotated = shape := by
  constructor
  · rintro ⟨input, member, rfl, rfl⟩
    obtain ⟨query, queryMember, emitted⟩ := List.mem_filterMap.1 member
    obtain ⟨binding, argument, emit, rfl⟩ := emitted_eq_some_iff.1 emitted
    obtain ⟨annotated, among, binds⟩ := Scope.bound_query_origin generated.bound queryMember
    rcases Scope.argument_cases binds.argument with ⟨_, _, other⟩ | ⟨_, _, _, _, other⟩ |
      ⟨built, made, same⟩
    · exact absurd (argument.symm.trans other) (by simp)
    · exact absurd (argument.symm.trans other) (by simp)
    · cases argument.symm.trans same
      obtain ⟨sameName, sameShape, exceeding⟩ := Scope.struct_argument_shape made
      exact ⟨annotated, List.mem_filter.2 ⟨among, decide_eq_true (exceeding.1 emit)⟩, sameName.symm,
        sameShape.symm⟩
  · rintro ⟨annotated, member, rfl, rfl⟩
    obtain ⟨among, exceeding⟩ := List.mem_filter.1 member
    obtain ⟨query, queryMember, binds⟩ := Scope.annotated_query_bound generated.bound among
    obtain ⟨binding, argument, emit, made⟩ :=
      (Scope.argument_emitted_iff binds.argument).2 (of_decide_eq_true exceeding)
    obtain ⟨sameName, sameShape, _⟩ := Scope.struct_argument_shape made
    exact ⟨binding.struct, List.mem_filterMap.2 ⟨query, queryMember,
      emitted_eq_some_iff.2 ⟨binding, argument, emit, rfl⟩⟩, sameName, sameShape⟩

theorem emitted_result_provided (generated : Generated request options fed output)
    {row : Struct} (member : row ∈ output.emittedResults) : Provides fed row := by
  obtain ⟨query, queryMember, emitted⟩ := List.mem_filterMap.1 member
  obtain ⟨binding, result, emit, rfl⟩ := emitted_eq_some_iff.1 emitted
  refine generated.extends_models.provided _ (List.mem_flatMap.2 ⟨query, queryMember, ?_⟩)
  exact mem_added_structs_iff.2 ⟨binding, result, Or.inl ⟨emit, rfl⟩⟩

theorem emitted_result_kept {row : Struct} (member : row ∈ output.emittedResults) :
    options.keepsStruct output.queries row.name = true := by
  obtain ⟨query, queryMember, emitted⟩ := List.mem_filterMap.1 member
  obtain ⟨binding, result, _, rfl⟩ := emitted_eq_some_iff.1 emitted
  exact result_name_kept queryMember result

theorem emitted_result_in_output (generated : Generated request options fed output)
    {row : Struct} (member : row ∈ output.emittedResults) :
    ∃ struct ∈ output.structs, struct.name = row.name ∧ struct.shape = row.shape := by
  obtain ⟨first, found, shape⟩ := generated.emitted_result_provided member
  have sameName : first.name = row.name := by simpa using List.find?_some found
  refine ⟨first, ?_, sameName, shape⟩
  rw [generated.mem_structs_iff, sameName]
  exact ⟨List.mem_of_find?_eq_some found, emitted_result_kept member⟩

theorem emitted_results_agree (generated : Generated request options fed output)
    {left right : Struct} (leftMember : left ∈ output.emittedResults)
    (rightMember : right ∈ output.emittedResults) (sameName : left.name = right.name) :
    left.shape = right.shape :=
  (generated.emitted_result_provided leftMember).same_shape
    (generated.emitted_result_provided rightMember) sameName

theorem inputs_agree_of_emitted_agree (generated : Generated request options fed output)
    (agree : output.toModel.EmittedAgree) :
    (Scope.ofRequest request options).InputsAgree request.queries output.toModel := by
  have emitted := fun annotated member =>
    (generated.emitted_argument_iff (Scope.inputName annotated)
      ((Scope.ofRequest request options).inputShape annotated)).2 ⟨annotated, member, rfl, rfl⟩
  refine ⟨?_, ?_, ?_⟩
  · intro left leftMember right rightMember sameName
    obtain ⟨first, firstMember, firstName, firstShape⟩ := emitted left leftMember
    obtain ⟨second, secondMember, secondName, secondShape⟩ := emitted right rightMember
    have agreed := agree.together first (List.mem_append_left _ firstMember) second
      (List.mem_append_left _ secondMember) (by rw [firstName, secondName, sameName])
    rw [← firstShape, ← secondShape, (same_shape_iff _ _).1 agreed]
  · intro annotated member
    obtain ⟨input, inputMember, sameName, _⟩ := emitted annotated member
    exact sameName ▸ agree.enumsFree input inputMember
  · intro annotated member struct structMember named
    obtain ⟨input, inputMember, sameName, sameShape⟩ := emitted annotated member
    have agreed := agree.withStructs input inputMember struct structMember
      (named.trans sameName.symm)
    rw [← sameShape, (same_shape_iff _ _).1 agreed]

theorem emitted_agree_of_inputs_agree (generated : Generated request options fed output)
    (agree : (Scope.ofRequest request options).InputsAgree request.queries output.toModel) :
    output.toModel.EmittedAgree := by
  have origin := fun input member =>
    (generated.emitted_argument_iff input.name input.shape).1 ⟨input, member, rfl, rfl⟩
  have withStructs : ∀ input ∈ output.emittedArguments, ∀ struct ∈ output.structs,
      struct.name = input.name → struct.shape = input.shape := by
    intro input member struct structMember named
    obtain ⟨annotated, among, sameName, sameShape⟩ := origin input member
    rw [← sameShape]
    exact agree.withStructs annotated among struct structMember (named.trans sameName.symm)
  -- A result of an argument's name is compared through the struct that it left in the output.
  have crossed : ∀ input ∈ output.emittedArguments, ∀ row ∈ output.emittedResults,
      input.name = row.name → input.shape = row.shape := by
    intro input inputMember row rowMember sameName
    obtain ⟨struct, structMember, named, shape⟩ := generated.emitted_result_in_output rowMember
    rw [← shape, withStructs input inputMember struct structMember (named.trans sameName.symm)]
  refine ⟨?_, ?_, ?_⟩
  · intro left leftMember right rightMember sameName
    rw [same_shape_iff]
    rcases List.mem_append.1 leftMember with leftInput | leftRow <;>
      rcases List.mem_append.1 rightMember with rightInput | rightRow
    · obtain ⟨first, firstMember, firstName, firstShape⟩ := origin left leftInput
      obtain ⟨second, secondMember, secondName, secondShape⟩ := origin right rightInput
      rw [← firstShape, ← secondShape]
      exact agree.together first firstMember second secondMember
        (by rw [firstName, secondName, sameName])
    · exact crossed left leftInput right rightRow sameName
    · exact (crossed right rightInput left leftRow sameName.symm).symm
    · exact generated.emitted_results_agree leftRow rightRow sameName
  · intro input member
    obtain ⟨annotated, among, sameName, _⟩ := origin input member
    exact sameName ▸ agree.enumsFree annotated among
  · intro input member struct structMember named
    exact (same_shape_iff _ _).2 (withStructs input member struct structMember named)

end Generated

/-- Whenever a generation succeeds, emitted results of one name have one shape; and the emitted
structs agree altogether exactly when the inputs over the limit do. -/
theorem emitted_structs_agree_iff_inputs_agree {request : Request} {options : ResolvedOptions}
    {output : Output} (success : generateWith request options = .ok output) :
    (∀ left ∈ output.emittedResults, ∀ right ∈ output.emittedResults,
      left.name = right.name → left.sameShape right = true) ∧
    (output.toModel.EmittedAgree ↔
      (Scope.ofRequest request options).InputsAgree request.queries output.toModel) := by
  obtain ⟨fed, generated⟩ := generated_of_success success
  refine ⟨?_, generated.inputs_agree_of_emitted_agree, generated.emitted_agree_of_inputs_agree⟩
  intro left leftMember right rightMember sameName
  exact (same_shape_iff _ _).2 (generated.emitted_results_agree leftMember rightMember sameName)

theorem bookshop_emitted_structs_agree :
    ∃ output, generateWith bookshop { package := "shop" } = .ok output ∧
      output.toModel.EmittedAgree := by
  obtain ⟨output, success, enums, structs⟩ := bookshop_generates
  refine ⟨output, success, (emitted_structs_agree_iff_inputs_agree success).2.2 ⟨?_, ?_, ?_⟩⟩
  · decide +kernel
  · rw [enums]
    decide +kernel
  · have free : ∀ annotated ∈ (Scope.ofRequest bookshop { package := "shop" }).overLimit
        bookshop.queries, Scope.inputName annotated ∉
          ["Author", "Book", "BookConnection", "BookEdge", "FindTitlesRow"] := by
      decide +kernel
    intro annotated member struct structMember named
    have listed := List.mem_map_of_mem (f := Struct.name) structMember
    rw [structs, named] at listed
    exact absurd listed (free annotated member)

/-- Two queries whose resolvers have one name in different operation types. -/
def sharedResolver : Request where
  catalog := { defaultSchema := "public" }
  queries := [
    { name := "ListAuthors"
      command := some .exec
      params := [
        { number := 1, column := plainColumn none "name" "text" },
        { number := 2, column := plainColumn none "born" "date" }]
      comments := ["gql: Query.search"] },
    { name := "RankAuthors"
      command := some .exec
      params := [
        { number := 1, column := plainColumn none "id" "uuid" },
        { number := 2, column := plainColumn none "rank" "int4" }]
      comments := ["gql: Mutation.search"] }]

/-- Both inputs are emitted under the one name, and the generation succeeds all the same. -/
theorem shared_resolver_inputs_differ :
    ∃ output, generateWith sharedResolver { package := "db" } = .ok output ∧
      ¬output.toModel.EmittedAgree := by
  have inputs : (generateWith sharedResolver { package := "db" }).toOption.map
      (fun output => output.emittedArguments.map fun input => (input.name, input.shape)) =
        some [
          ("SearchInput",
            [("Name", { scalar := .string, nonNull := true }),
              ("Born", { scalar := .time, nonNull := true })]),
          ("SearchInput",
            [("Id", { scalar := .uuid, nonNull := true }),
              ("Rank", { scalar := .int, nonNull := true })])] := by
    decide +kernel
  obtain ⟨output, found, listed⟩ := Option.map_eq_some_iff.1 inputs
  refine ⟨output, Outcome.ok_of_to_option found, ?_⟩
  intro agree
  obtain ⟨first, others, split, firstListed, rest⟩ := List.map_eq_cons_iff.1 listed
  obtain ⟨second, _, secondSplit, secondListed, _⟩ := List.map_eq_cons_iff.1 rest
  obtain ⟨firstName, firstShape⟩ := Prod.mk.inj firstListed
  obtain ⟨secondName, secondShape⟩ := Prod.mk.inj secondListed
  have agreed := (same_shape_iff _ _).1 (agree.together first (by simp [split]) second
    (by simp [split, secondSplit]) (firstName.trans secondName.symm))
  rw [firstShape, secondShape] at agreed
  exact absurd agreed (by decide)

end GraphSchema
