import GraphSchema.Proofs.References

/-!
What pruning keeps of a model. A query needs the types of its argument and its result, those of
their fields and of the fields of embedded models, the type that its own field returns, and the
structs that hold its pages. Pruning goes by names that it reads off the bindings; the main result
says that these are the needed names and the names of input structs. So whatever a query needs stays
as it was, and nothing else does except what an input struct happens to share its name with.
-/

namespace GraphSchema

namespace BoundQuery

def inputStruct? (query : BoundQuery) : Option Struct := query.argument.bind Binding.struct?

/-- The structs that hold the pages of a query's result. -/
def pages (directives : DirectiveRules) (query : BoundQuery) : List Struct :=
  match query.pagination, query.resultStruct? with
  | some mode, some paged => mode.companions directives paged
  | _, _ => []

/-- The names of the types that a query cannot do without. -/
def neededNames (directives : DirectiveRules) (query : BoundQuery) : List String :=
  query.types.map TypeRef.baseName ++ query.resultStruct?.toList.map Struct.name ++
    (query.pages directives).map Struct.name

end BoundQuery

namespace Model

def neededNames (directives : DirectiveRules) (model : Model) : List String :=
  model.queries.flatMap (·.neededNames directives)

def inputStructs (model : Model) : List Struct :=
  model.queries.flatMap fun query => query.inputStruct?.toList

/-- A model from which types have been left out. What has a needed name is there, and all that is
there has its old place; an enum may also be there for the name of its nullable wrapper. -/
structure RemainsOf (left model : Model) (directives : DirectiveRules) : Prop where
  queries : left.queries = model.queries
  enumsInOrder : left.enums.Sublist model.enums
  structsInOrder : left.structs.Sublist model.structs
  enumsNeeded : (model.enums.filter fun enumeration =>
    enumeration.name ∈ model.neededNames directives).Sublist left.enums
  structsNeeded : (model.structs.filter fun struct =>
    struct.name ∈ model.neededNames directives).Sublist left.structs
  enumsNamed : ∀ enumeration ∈ left.enums,
    ∃ name ∈ model.neededNames directives ++ model.inputStructs.map Struct.name,
      name = enumeration.name ∨ name = "Null" ++ enumeration.name
  structsNamed : ∀ struct ∈ left.structs,
    struct.name ∈ model.neededNames directives ++ model.inputStructs.map Struct.name

end Model

theorem field_reached_eq (field : Field) : field.reached = field.types.map TypeRef.baseName := by
  simp [Field.reached, Field.types]

theorem mem_binding_reached_iff {binding : Binding} {name : String} :
    name ∈ binding.reached ↔ name ∈ binding.types.map TypeRef.baseName ∨
      ∃ struct, binding.struct? = some struct ∧ struct.name = name := by
  cases binding with
  | scalar binding => simp [Binding.reached, Binding.types, Binding.type, Binding.struct?]
  | struct binding =>
      have inFields : binding.struct.fields.flatMap Field.reached =
          binding.struct.types.map TypeRef.baseName := by
        rw [Struct.types, List.map_flatMap]
        exact List.flatMap_congr fun field _ => field_reached_eq field
      have own : (Binding.struct binding).type.baseName = binding.struct.name := rfl
      simp only [Binding.reached, Binding.struct?, Binding.types, inFields, own, List.mem_cons,
        Option.some.injEq, exists_eq_left']
      rw [or_comm, eq_comm]

namespace BoundQuery

variable {query : BoundQuery} {name : String}

theorem input_struct_of_argument {argument : Binding} {struct : Struct}
    (found : query.argument = some argument) (inStruct : argument.struct? = some struct) :
    query.inputStruct? = some struct := by
  rw [inputStruct?, found]
  exact inStruct

theorem result_struct_of_result {result : Binding} {struct : Struct}
    (found : query.result = some result) (inStruct : result.struct? = some struct) :
    query.resultStruct? = some struct := by
  rw [resultStruct?, found]
  exact inStruct

theorem page_names_eq (directives : DirectiveRules) (query : BoundQuery) :
    (query.pages directives).map Struct.name =
      match query.pagination, query.resultStruct? with
      | some mode, some paged => mode.companionNames paged.name
      | _, _ => [] := by
  unfold pages
  split
  · exact companion_names _ directives _
  · rfl

theorem mem_reached_iff (directives : DirectiveRules) :
    name ∈ query.reached ↔
      (∃ binding, (query.argument = some binding ∨ query.result = some binding) ∧
        name ∈ binding.reached) ∨ name ∈ (query.pages directives).map Struct.name := by
  have parts : query.reached = (query.argument.toList ++ query.result.toList).flatMap
      Binding.reached ++ (query.pages directives).map Struct.name := by
    rw [page_names_eq]
    rfl
  simp only [parts, List.mem_append, List.mem_flatMap, Option.mem_toList]

/-- A query's field returns the type of its result, or the first of its pages. -/
theorem return_type_cases (directives : DirectiveRules) {type : TypeRef}
    (returned : query.returnType? = some type) :
    (∃ result, query.result = some result ∧ type.baseName = result.type.baseName) ∨
      type.baseName ∈ (query.pages directives).map Struct.name := by
  obtain ⟨result, found, wrapped⟩ := Option.bind_eq_some_iff.1 returned
  split at wrapped
  · rename_i mode paged paginated inStruct
    obtain ⟨first, head, rfl⟩ := Option.map_eq_some_iff.1 wrapped
    rw [page_names_eq, paginated, result_struct_of_result found inStruct]
    exact Or.inr (List.mem_of_head? head)
  · refine Or.inl ⟨result, found, ?_⟩
    split at wrapped
    · exact Option.some.inj wrapped ▸ rfl
    · exact Option.some.inj wrapped ▸ rfl

theorem mem_types_iff {type : TypeRef} :
    type ∈ query.types ↔
      (∃ binding, (query.argument = some binding ∨ query.result = some binding) ∧
        type ∈ binding.types) ∨ query.returnType? = some type := by
  simp only [types, List.mem_append, List.mem_flatMap, Option.mem_toList, or_and_right, exists_or]

theorem types_needed (directives : DirectiveRules) {type : TypeRef} (member : type ∈ query.types) :
    type.baseName ∈ query.neededNames directives := by
  have named : type.baseName ∈ query.types.map TypeRef.baseName := List.mem_map_of_mem member
  exact List.mem_append_left _ (List.mem_append_left _ named)

theorem result_name_needed (directives : DirectiveRules) {paged : Struct}
    (found : query.resultStruct? = some paged) : paged.name ∈ query.neededNames directives := by
  simp [neededNames, found]

theorem reached_of_binding {binding : Binding}
    (found : query.argument = some binding ∨ query.result = some binding)
    (among : name ∈ binding.reached) : name ∈ query.reached :=
  (mem_reached_iff {}).2 (Or.inl ⟨binding, found, among⟩)

theorem reached_of_needed (directives : DirectiveRules)
    (needed : name ∈ query.neededNames directives) : name ∈ query.reached := by
  have ofPage (page : name ∈ (query.pages directives).map Struct.name) : name ∈ query.reached :=
    (mem_reached_iff directives).2 (Or.inr page)
  rcases List.mem_append.1 needed with ofResult | page
  · rcases List.mem_append.1 ofResult with inTypes | own
    · obtain ⟨type, member, rfl⟩ := List.mem_map.1 inTypes
      rcases mem_types_iff.1 member with ⟨binding, found, among⟩ | returned
      · apply reached_of_binding found
        exact mem_binding_reached_iff.2 (Or.inl (List.mem_map_of_mem among))
      · rcases return_type_cases directives returned with ⟨result, found, same⟩ | page
        · apply reached_of_binding (Or.inr found)
          rw [same]
          exact List.mem_cons_self
        · exact ofPage page
    · obtain ⟨paged, inResult, rfl⟩ := List.mem_map.1 own
      obtain ⟨result, found, inStruct⟩ := Option.bind_eq_some_iff.1 (Option.mem_toList.1 inResult)
      apply reached_of_binding (Or.inr found)
      exact mem_binding_reached_iff.2 (Or.inr ⟨paged, inStruct, rfl⟩)
  · exact ofPage page

/-- What pruning reaches from a query is what the query needs, and the name of its input. -/
theorem mem_reached_iff_needed (directives : DirectiveRules) :
    name ∈ query.reached ↔ name ∈ query.neededNames directives ∨
      ∃ input, query.inputStruct? = some input ∧ input.name = name := by
  constructor
  · intro reached
    rcases (mem_reached_iff directives).1 reached with ⟨binding, found, among⟩ | page
    · rcases mem_binding_reached_iff.1 among with inTypes | ⟨struct, inStruct, rfl⟩
      · obtain ⟨type, member, rfl⟩ := List.mem_map.1 inTypes
        exact Or.inl (types_needed directives (mem_types_iff.2 (Or.inl ⟨binding, found, member⟩)))
      · rcases found with argument | result
        · exact Or.inr ⟨struct, input_struct_of_argument argument inStruct, rfl⟩
        · have made := result_struct_of_result result inStruct
          exact Or.inl (result_name_needed directives made)
    · exact Or.inl (List.mem_append_right _ page)
  · rintro (needed | ⟨input, inArgument, rfl⟩)
    · exact reached_of_needed directives needed
    · obtain ⟨argument, found, inStruct⟩ := Option.bind_eq_some_iff.1 inArgument
      apply reached_of_binding (Or.inl found)
      exact mem_binding_reached_iff.2 (Or.inr ⟨input, inStruct, rfl⟩)

end BoundQuery

namespace Model

variable {model : Model} {name : String}

theorem mem_reached_names_iff (directives : DirectiveRules) :
    name ∈ reachedNames model.queries ↔
      name ∈ model.neededNames directives ++ model.inputStructs.map Struct.name := by
  simp only [reachedNames, neededNames, inputStructs, List.mem_append, List.mem_flatMap,
    BoundQuery.mem_reached_iff_needed directives, List.map_flatMap, List.mem_map,
    Option.mem_toList, and_or_left, exists_or]

theorem mem_pruned_structs_iff {struct : Struct} :
    struct ∈ model.pruned.structs ↔
      struct ∈ model.structs ∧ struct.name ∈ reachedNames model.queries := by
  simp [pruned, reachableStructs]

theorem mem_pruned_enums_iff {enumeration : EnumType} :
    enumeration ∈ model.pruned.enums ↔
      enumeration ∈ model.enums ∧ (enumeration.name ∈ reachedNames model.queries ∨
        "Null" ++ enumeration.name ∈ reachedNames model.queries) := by
  simp [pruned, reachableEnums, EnumType.isReached]

theorem pruned_remains (model : Model) (directives : DirectiveRules) :
    model.pruned.RemainsOf model directives where
  queries := rfl
  enumsInOrder := List.filter_sublist
  structsInOrder := List.filter_sublist
  enumsNeeded := by
    apply List.monotone_filter_right
    intro enumeration needed
    have reached := (mem_reached_names_iff directives).2
      (List.mem_append_left _ (of_decide_eq_true needed))
    simp [EnumType.isReached, reached]
  structsNeeded := by
    apply List.monotone_filter_right
    intro struct needed
    have reached := (mem_reached_names_iff directives).2
      (List.mem_append_left _ (of_decide_eq_true needed))
    simp [reached]
  enumsNamed := by
    intro enumeration kept
    rcases (mem_pruned_enums_iff.1 kept).2 with own | wrapper
    · exact ⟨_, (mem_reached_names_iff directives).1 own, Or.inl rfl⟩
    · exact ⟨_, (mem_reached_names_iff directives).1 wrapper, Or.inr rfl⟩
  structsNamed := by
    intro struct kept
    exact (mem_reached_names_iff directives).1 (mem_pruned_structs_iff.1 kept).2

end Model

/-- A generation that leaves out unused types yields what remains of the model that was assembled:
all that has a needed name, in its old order, and besides that only what has the name of an input
struct. -/
theorem pruning_keeps_what_queries_need {request : Request} {options : ResolvedOptions}
    {output : Output} (omitting : options.omitUnusedStructs = true)
    (success : generateWith request options = .ok output) :
    ∃ assembled, Model.assemble request options = .ok assembled ∧
      output.toModel.RemainsOf assembled options.directives := by
  obtain ⟨assembled, made, left, _⟩ := generate_with_ok success
  refine ⟨assembled, made, ?_⟩
  rw [left, if_pos omitting]
  exact assembled.pruned_remains options.directives

/-- The library's authors and the pages of its books stay, its moods and its page information do
not. -/
theorem library_is_pruned :
    ∃ output, generateWith library libraryOptions = .ok output ∧ output.enums = [] ∧
      output.structs.map Struct.name = ["Author", "Book", "BookConnection", "BookEdge"] ∧
      ∃ assembled, Model.assemble library libraryOptions = .ok assembled ∧
        output.toModel.RemainsOf assembled libraryOptions.directives := by
  have names : (generateWith library libraryOptions).toOption.map
      (fun output => (output.enums, output.structs.map Struct.name)) =
        some ([], ["Author", "Book", "BookConnection", "BookEdge"]) := by
    decide +kernel
  obtain ⟨output, found, same⟩ := Option.map_eq_some_iff.1 names
  obtain ⟨enums, structs⟩ := Prod.mk.inj same
  have success := Outcome.ok_of_to_option found
  exact ⟨output, success, enums, structs, pruning_keeps_what_queries_need rfl success⟩

end GraphSchema
