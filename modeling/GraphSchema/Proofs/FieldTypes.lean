import GraphSchema.Proofs.PrunedReferences

/-!
When the fields of a struct that share a name share a type. A struct that is made from the columns
of a query is refused if they do not, and the fields of a companion have names of their own. Nothing
compares the fields of a model: two columns of a table may be spelled alike once their names are
written in PascalCase. The main result says that this is the only way in which a name can stand for
two types, and that it then does so in the model and in every result that reuses it.
-/

namespace GraphSchema

def FieldsAgree (fields : List Field) : Prop :=
  ∀ left ∈ fields, ∀ right ∈ fields, left.name = right.name → left.type = right.type

def Model.boundStructs (model : Model) : List Struct :=
  model.queries.flatMap fun query => query.inputStruct?.toList ++ query.resultStruct?.toList

/-- The columns of a table that are spelled alike as fields have one type. -/
def Scope.ColumnsAgree (scope : Scope) (table : Table) : Prop :=
  ∀ left ∈ table.columns, ∀ right ∈ table.columns,
    scope.structName left.name = scope.structName right.name →
      scope.typeOf left = scope.typeOf right

instance (scope : Scope) (table : Table) : Decidable (scope.ColumnsAgree table) :=
  inferInstanceAs (Decidable (∀ left ∈ table.columns, _))

/-- Comparing each field with the first one of its name compares all fields of one name. -/
theorem type_conflict_none_iff {fields : List Field} :
    typeConflict? fields = none ↔ FieldsAgree fields := by
  rw [type_conflict_eq, List.findSome?_eq_none_iff]
  constructor
  · intro free left leftMember right rightMember sameName
    have first := conflict_in_eq_none_iff.1 (free left leftMember)
    have second := conflict_in_eq_none_iff.1 (free right rightMember)
    rw [← sameName] at second
    cases found : fields.find? (·.name = left.name) with
    | none => exact absurd (decide_eq_true rfl) (List.find?_eq_none.1 found left leftMember)
    | some head => rw [← first head found, second head found]
  · intro agree field member
    apply conflict_in_eq_none_iff.2
    intro head found
    have sameName : head.name = field.name := by simpa using List.find?_some found
    exact agree head (List.mem_of_find?_eq_some found) field member sameName

theorem FieldsAgree.with_aliases {fields : List Field} (agree : FieldsAgree fields) :
    FieldsAgree (fields.map withAlias) := by
  intro left leftMember right rightMember sameName
  obtain ⟨first, firstMember, rfl⟩ := List.mem_map.1 leftMember
  obtain ⟨second, secondMember, rfl⟩ := List.mem_map.1 rightMember
  obtain ⟨_, firstSame⟩ := with_alias_directive first
  obtain ⟨_, secondSame⟩ := with_alias_directive second
  rw [firstSame, secondSame] at sameName ⊢
  exact agree first firstMember second secondMember sameName

theorem companion_fields_agree {mode : Pagination} {directives : DirectiveRules}
    {paged page : Struct} (member : page ∈ mode.companions directives paged) :
    page.table = none ∧ FieldsAgree page.fields := by
  obtain ⟨_, _, fields, rfl, distinct⟩ := companion_of_mem member
  refine ⟨rfl, ?_⟩
  intro left leftMember right rightMember sameName
  obtain ⟨first, firstMember, rfl⟩ := List.mem_map.1 leftMember
  obtain ⟨second, secondMember, rfl⟩ := List.mem_map.1 rightMember
  rw [List.inj_on_of_nodup_map distinct firstMember secondMember sameName]

namespace Scope

variable {scope : Scope} {structs : List Struct} {annotated : AnnotatedQuery}

theorem model_fields_agree_iff {schema : Schema} {table : Table} :
    FieldsAgree (scope.model schema table).fields ↔ scope.ColumnsAgree table := by
  simp [FieldsAgree, ColumnsAgree, model, modelField]

theorem row_fields_agree {name modelPath : String} {sources : List FieldSource} {struct : Struct}
    (made : scope.row name modelPath sources = .ok struct) :
    struct.table = none ∧ FieldsAgree struct.fields := by
  obtain ⟨free, rfl⟩ := row_ok made
  exact ⟨rfl, type_conflict_none_iff.1 free⟩

theorem argument_fields_agree {binding : StructBinding}
    (made : scope.argument annotated = .ok (some (.struct binding))) :
    binding.struct.table = none ∧ FieldsAgree binding.struct.fields := by
  obtain ⟨free, rfl⟩ := struct_argument_ok (struct_argument_made made)
  have agree := type_conflict_none_iff.1 free
  refine ⟨rfl, ?_⟩
  simp only [inputFields]
  split
  · exact agree.with_aliases
  · exact agree

theorem result_fields_agree {binding : StructBinding}
    (made : scope.result structs annotated = .ok (some (.struct binding)))
    (emitted : binding.emit = true) :
    binding.struct.table = none ∧ FieldsAgree binding.struct.fields := by
  rcases struct_result_cases (struct_result_made made) with ⟨model, _, rfl⟩ | ⟨_, ofRow⟩
  · cases emitted
  · obtain ⟨name, _, row⟩ := row_result_ok ofRow
    exact row_fields_agree row

theorem model_owned {struct : Struct} (declared : struct ∈ scope.models) :
    struct.table ≠ none := by
  obtain ⟨schema, _, table, _, rfl⟩ := mem_models_iff.1 declared
  exact Option.some_ne_none _

end Scope

namespace Generated

variable {request : Request} {options : ResolvedOptions} {fed : List Struct} {output : Output}

theorem struct_agrees_or_model (generated : Generated request options fed output)
    {struct : Struct} (member : struct ∈ output.structs) :
    struct ∈ (Scope.ofRequest request options).models ∨
      (struct.table = none ∧ FieldsAgree struct.fields) := by
  rcases generated.struct_cases member with model | ⟨query, queryMember, fedBack⟩
  · exact Or.inl model
  · obtain ⟨binding, found, ⟨emitted, rfl⟩ | ⟨mode, _, page⟩⟩ := mem_added_structs_iff.1 fedBack
    · obtain ⟨annotated, _, made⟩ := Scope.bound_result_origin generated.bound queryMember found
      exact Or.inr (Scope.result_fields_agree made emitted)
    · exact Or.inr (companion_fields_agree page)

/-- A bound struct has the fields of a model in the output, or it belongs to no table and its fields
agree. -/
theorem bound_struct_agrees_or_model (generated : Generated request options fed output)
    {struct : Struct} (member : struct ∈ output.boundStructs) :
    (∃ model ∈ output.structs, struct.table = model.table ∧ struct.fields = model.fields) ∨
      (struct.table = none ∧ FieldsAgree struct.fields) := by
  obtain ⟨query, queryMember, bound⟩ := List.mem_flatMap.1 member
  rcases List.mem_append.1 bound with input | result
  · obtain ⟨argument, found, inStruct⟩ := Option.bind_eq_some_iff.1 (Option.mem_toList.1 input)
    cases argument with
    | scalar binding => cases inStruct
    | struct binding =>
        obtain rfl := Option.some.inj inStruct
        obtain ⟨annotated, _, binds⟩ := Scope.bound_query_origin generated.bound queryMember
        exact Or.inr (Scope.argument_fields_agree (found ▸ binds.argument))
  · obtain ⟨binding, found, rfl⟩ := result_struct_eq_some_iff.1 (Option.mem_toList.1 result)
    obtain ⟨annotated, _, made⟩ := Scope.bound_result_origin generated.bound queryMember found
    cases emitted : binding.emit with
    | true => exact Or.inr (Scope.result_fields_agree made emitted)
    | false =>
        obtain ⟨model, declared, rfl⟩ := Scope.unemitted_result_copies made emitted
        obtain ⟨added, split, _⟩ := generated.extends_models.appended
        have inFed : model ∈ fed := split ▸ List.mem_append_left added declared
        have kept := (generated.mem_structs_iff model).2
          ⟨inFed, result_name_kept queryMember found⟩
        exact Or.inl ⟨model, kept, rfl, rfl⟩

end Generated

/-- Whenever a generation succeeds, the fields of every struct that belongs to no table agree; and
those of all its structs do exactly when the columns of each table agree whose model is in the
output. -/
theorem field_types_agree_iff_columns_agree {request : Request} {options : ResolvedOptions}
    {output : Output} (success : generateWith request options = .ok output) :
    (∀ struct ∈ output.structs ++ output.boundStructs,
      struct.table = none → FieldsAgree struct.fields) ∧
    ((∀ struct ∈ output.structs ++ output.boundStructs, FieldsAgree struct.fields) ↔
      ∀ schema ∈ request.catalog.userSchemas, ∀ table ∈ schema.tables,
        (Scope.ofRequest request options).model schema table ∈ output.structs →
          (Scope.ofRequest request options).ColumnsAgree table) := by
  obtain ⟨fed, generated⟩ := generated_of_success success
  refine ⟨?_, ?_, ?_⟩
  · intro struct member unowned
    rcases List.mem_append.1 member with inOutput | bound
    · rcases generated.struct_agrees_or_model inOutput with model | ⟨_, agree⟩
      · exact absurd unowned (Scope.model_owned model)
      · exact agree
    · rcases generated.bound_struct_agrees_or_model bound with
        ⟨model, inOutput, sameTable, sameFields⟩ | ⟨_, agree⟩
      · rcases generated.struct_agrees_or_model inOutput with declared | ⟨_, agree⟩
        · exact absurd (sameTable.symm.trans unowned) (Scope.model_owned declared)
        · exact sameFields ▸ agree
      · exact agree
  · intro agree schema schemaMember table tableMember inOutput
    exact Scope.model_fields_agree_iff.1 (agree _ (List.mem_append_left _ inOutput))
  · intro columns
    have ofOutput : ∀ struct ∈ output.structs, FieldsAgree struct.fields := by
      intro struct member
      rcases generated.struct_agrees_or_model member with model | ⟨_, agree⟩
      · obtain ⟨schema, schemaMember, table, tableMember, rfl⟩ := Scope.mem_models_iff.1 model
        exact Scope.model_fields_agree_iff.2
          (columns schema schemaMember table tableMember member)
      · exact agree
    intro struct member
    rcases List.mem_append.1 member with inOutput | bound
    · exact ofOutput struct inOutput
    · rcases generated.bound_struct_agrees_or_model bound with
        ⟨model, inOutput, _, sameFields⟩ | ⟨_, agree⟩
      · exact sameFields ▸ ofOutput model inOutput
      · exact agree

theorem bookshop_field_types_agree :
    ∃ output, generateWith bookshop { package := "shop" } = .ok output ∧
      ∀ struct ∈ output.structs ++ output.boundStructs, FieldsAgree struct.fields := by
  obtain ⟨output, success, _⟩ := bookshop_generates
  refine ⟨output, success, (field_types_agree_iff_columns_agree success).2.2 ?_⟩
  have columns : ∀ schema ∈ bookshop.catalog.userSchemas, ∀ table ∈ schema.tables,
      (Scope.ofRequest bookshop { package := "shop" }).ColumnsAgree table := by
    decide +kernel
  intro schema schemaMember table tableMember _
  exact columns schema schemaMember table tableMember

/-- A table whose columns `user_id` and `userId` are one word in PascalCase. -/
def twoSpellings : Request where
  catalog := {
    defaultSchema := "public"
    schemas := [{
      name := "public"
      tables := [
        { rel := { name := "accounts" }
          columns := [plainColumn none "user_id" "uuid", plainColumn none "userId" "text"] }] }] }

theorem two_spellings_differ :
    ∃ output, generateWith twoSpellings { package := "db" } = .ok output ∧
      ¬∀ struct ∈ output.structs ++ output.boundStructs, FieldsAgree struct.fields := by
  have fields : (generateWith twoSpellings { package := "db" }).toOption.map
      (fun output => output.structs.map Struct.shape) =
        some [[("UserId", { scalar := .uuid, nonNull := true }),
          ("UserId", { scalar := .string, nonNull := true })]] := by
    decide +kernel
  obtain ⟨output, found, shapes⟩ := Option.map_eq_some_iff.1 fields
  refine ⟨output, Outcome.ok_of_to_option found, ?_⟩
  intro agree
  obtain ⟨account, others, split, shape, _⟩ := List.map_eq_cons_iff.1 shapes
  obtain ⟨first, rest, fieldsSplit, firstField, later⟩ := List.map_eq_cons_iff.1 shape
  obtain ⟨second, _, restSplit, secondField, _⟩ := List.map_eq_cons_iff.1 later
  obtain ⟨firstName, firstType⟩ := Prod.mk.inj firstField
  obtain ⟨secondName, secondType⟩ := Prod.mk.inj secondField
  have agreed := agree account (by simp [split]) first (by simp [fieldsSplit]) second
    (by simp [fieldsSplit, restSplit]) (firstName.trans secondName.symm)
  rw [firstType, secondType] at agreed
  exact absurd agreed (by decide)

end GraphSchema
