import GraphSchema.Proofs.PagedInputs

/-!
The directives of a paginated query's input. The aliases of pagination are given out by the names of
the fields, whichever parameter they come from and whichever the mode is. So a parameter of the query
keeps the directive that the rules have for its field, unless its field is called as one of the
fields of cursor pagination.
-/

namespace GraphSchema

def aliasDirective (host : String) : String := "@goField(name: \"" ++ host ++ "\")"

def bindsField (directive : Option String) : Bool :=
  directive.any fun text => Text.contains "@goField".toList text.toList

def Field.alias? (field : Field) : Option String :=
  if bindsField field.directive then none else aliasOf? field.name

/-- The fields in the places of the parameters have the directives that the rules have for them. -/
def Struct.KeepsDirectives (input : Struct) (scope : Scope) (params : List Parameter) : Prop :=
  ∀ (place : Nat) (parameter : Parameter) (field : Field), params[place]? = some parameter →
    input.fields[place]? = some field → field.directive = scope.directives input.name field.name

theorem join_directives_ne (directive : Option String) (text : String) :
    joinDirectives directive (some text) ≠ directive := by
  cases directive with
  | none =>
      intro same
      cases same
  | some current =>
      intro same
      have lengths := congrArg String.length (Option.some.inj same)
      rw [String.length_append, String.length_append] at lengths
      have space : " ".length = 1 := rfl
      omega

theorem join_directives_eq_self_iff {directive : Option String} {extra : Option String} :
    joinDirectives directive extra = directive ↔ extra = none := by
  cases extra with
  | none => simp [join_directives_none]
  | some text => simp [join_directives_ne]

theorem directive_with_alias (field : Field) :
    (withAlias field).directive =
      joinDirectives field.directive (field.alias?.map aliasDirective) := by
  unfold withAlias Field.alias?
  cases special : aliasOf? field.name with
  | none => simp [join_directives_none]
  | some host =>
      by_cases bound : bindsField field.directive = true
      · rw [if_pos bound, Option.map_none, join_directives_none]
        exact congrArg (fun changed : Field => changed.directive) (if_pos bound)
      · rw [if_neg bound, Option.map_some]
        exact congrArg (fun changed : Field => changed.directive) (if_neg bound)

/-- The names of pagination's fields have no numbers. -/
theorem alias_of_numbered (base : String) {number : Nat} (numbered : number ≠ 0) :
    aliasOf? (numberedName base number) = none := by
  have mark : '_' ∈ (numberedName base number).toList := by
    rw [numbered_name_chars]
    simp [numberMark, numbered]
  have first : numberedName base number ≠ "First" := by
    intro same
    rw [same] at mark
    exact absurd mark (by decide)
  have after : numberedName base number ≠ "After" := by
    intro same
    rw [same] at mark
    exact absurd mark (by decide)
  rw [aliasOf?, if_neg first, if_neg after]

namespace Scope

variable {scope : Scope} {annotated : AnnotatedQuery} {mode : Pagination}

def parameterAlias? (scope : Scope) (annotated : AnnotatedQuery) (place : Nat)
    (parameter : Parameter) : Option String :=
  let field := scope.structName (Naming.columnLabel parameter.column.name place)
  if fieldNumber (scope.namedParameters annotated.query.params) parameter.number = 0 then
    if bindsField (scope.directives (inputName annotated) field) then none else aliasOf? field
  else none

theorem alias_of_parameter {place : Nat} {parameter : Parameter}
    (member : parameter ∈ annotated.query.params) (type : TypeRef) :
    (scope.rowField (inputName annotated)
      (scope.nameSource place (scope.parameterSource parameter))
      (fieldNumber (scope.nameSources 0 (scope.argumentSources annotated)) parameter.number)
      type).alias? = scope.parameterAlias? annotated place parameter := by
  rw [scope.parameter_field_number annotated member, parameterAlias?]
  by_cases numbered : fieldNumber (scope.namedParameters annotated.query.params)
      parameter.number = 0
  · rw [numbered, if_pos rfl]
    rfl
  · have unaliased := alias_of_numbered
      (scope.nameSource place (scope.parameterSource parameter)).base numbered
    rw [if_neg numbered]
    exact (if_congr Iff.rfl rfl unaliased).trans (ite_self none)

theorem directive_of_parameter {binding : StructBinding} (paged : annotated.pagination = some mode)
    (made : scope.structArgument annotated = .ok binding) {place : Nat} {parameter : Parameter}
    (located : annotated.query.params[place]? = some parameter) :
    ∃ field, binding.struct.fields[place]? = some field ∧
      field.column = some parameter.column ∧
      field.directive = joinDirectives (scope.directives binding.struct.name field.name)
        ((scope.parameterAlias? annotated place parameter).map aliasDirective) := by
  obtain ⟨_, rfl⟩ := struct_argument_ok made
  have member := List.mem_of_getElem? located
  have among := scope.paged_field_at located
  have stands : (scope.inputFields annotated)[place]? = some (scope.pagedField annotated
      (scope.nameSource place (scope.parameterSource parameter))) := by
    rw [paged_input_fields paged, List.getElem?_append_left (List.getElem?_eq_some_iff.1 among).1]
    exact among
  obtain ⟨column, name, _⟩ := scope.paged_field_shape annotated
    (scope.nameSource place (scope.parameterSource parameter))
  refine ⟨_, stands, column, ?_⟩
  rw [name, pagedField, directive_with_alias]
  exact congrArg (joinDirectives _) (congrArg (Option.map aliasDirective)
    (alias_of_parameter member _))

/-- In the input of a paginated query the field of a parameter has the directive that the rules have
for it, joined with an alias if it is called as a field of cursor pagination. So the parameters keep
the directives of their fields exactly if none of them takes an alias. -/
theorem directives_kept_iff {argument : Option Binding} (paged : annotated.pagination = some mode)
    (made : scope.argument annotated = .ok argument) :
    ∃ binding, argument = some (.struct binding) ∧
      (binding.struct.KeepsDirectives scope annotated.query.params ↔
        ∀ (place : Nat) (parameter : Parameter), annotated.query.params[place]? = some parameter →
          scope.parameterAlias? annotated place parameter = none) ∧
      ∀ (place : Nat) (parameter : Parameter), annotated.query.params[place]? = some parameter →
        ∃ field : Field, binding.struct.fields[place]? = some field ∧
          field.column = some parameter.column ∧
          field.directive = joinDirectives (scope.directives binding.struct.name field.name)
            ((scope.parameterAlias? annotated place parameter).map aliasDirective) := by
  obtain ⟨binding, rfl⟩ := scope.paged_argument paged made
  have built := struct_argument_made made
  have directives (place : Nat) (parameter : Parameter)
      (located : annotated.query.params[place]? = some parameter) :=
    directive_of_parameter paged built located
  refine ⟨binding, rfl, ?_, directives⟩
  constructor
  · intro kept place parameter located
    obtain ⟨field, stands, _, joined⟩ := directives place parameter located
    have own := kept place parameter field located stands
    rw [own] at joined
    exact Option.map_eq_none_iff.1 (join_directives_eq_self_iff.1 joined.symm)
  · intro unaliased place parameter field located stands
    obtain ⟨found, foundStands, _, joined⟩ := directives place parameter located
    obtain rfl := Option.some.inj (foundStands.symm.trans stands)
    rw [joined, unaliased place parameter located]
    exact join_directives_eq_self_iff.2 rfl

def firstNumber : Parameter where
  number := 1
  column := plainColumn none "first" "int4"

def firstBooks : AnnotatedQuery where
  query := {
    name := "FirstBooks"
    command := some .many
    params := [firstNumber, { number := 2, column := plainColumn none "title" "text" }]
    comments := ["gql: Query.books", "paginated"] }
  command := .many
  binding := {
    operation := "Query"
    resolver := "books"
    returnType := none
    directive := none }
  pagination := some .offset
  comments := []

def boundFirst : ResolvedOptions where
  package := "db"
  directives := { rules := [
    { model := "BooksInput", field := "First", directive := "@goField(name: \"from\")" }] }

theorem first_books_paged : firstBooks.pagination = some .offset := rfl

theorem bound_first_keeps_its_name :
    ∃ binding, (ofRequest {} boundFirst).argument firstBooks = .ok (some (.struct binding)) ∧
      binding.struct.KeepsDirectives (ofRequest {} boundFirst) firstBooks.query.params := by
  have succeeds : ((ofRequest {} boundFirst).argument firstBooks).toOption.isSome = true := by
    decide +kernel
  obtain ⟨argument, made⟩ := Outcome.succeeds_of_to_option succeeds
  obtain ⟨binding, rfl, kept, _⟩ := directives_kept_iff first_books_paged made
  refine ⟨binding, made, kept.2 ?_⟩
  have unaliased : ∀ place < 2, ∀ parameter ∈ firstBooks.query.params[place]?,
      (ofRequest {} boundFirst).parameterAlias? firstBooks place parameter = none := by
    decide +kernel
  intro place parameter located
  exact unaliased place (List.getElem?_eq_some_iff.1 located).1 parameter located

/-- Without a rule, the first number of the books is bound to the host's field of the limit, which
pages by offset have too. -/
theorem first_takes_the_name_of_the_limit :
    AnnotatedQuery.ofQuery? firstBooks.query = some firstBooks ∧
      ∃ binding, (ofRequest {} { package := "db" }).argument firstBooks =
          .ok (some (.struct binding)) ∧
        ¬binding.struct.KeepsDirectives (ofRequest {} { package := "db" })
          firstBooks.query.params := by
  refine ⟨by rfl, ?_⟩
  have succeeds :
      ((ofRequest {} { package := "db" }).argument firstBooks).toOption.isSome = true := by
    decide +kernel
  obtain ⟨argument, made⟩ := Outcome.succeeds_of_to_option succeeds
  obtain ⟨binding, rfl⟩ := paged_argument first_books_paged made
  refine ⟨binding, made, ?_⟩
  intro kept
  have located : firstBooks.query.params[0]? = some firstNumber := rfl
  obtain ⟨field, stands, _, joined⟩ :=
    directive_of_parameter first_books_paged (struct_argument_made made) located
  have limit : (ofRequest {} { package := "db" }).parameterAlias? firstBooks 0 firstNumber =
      some "limit" := by
    decide +kernel
  rw [limit, kept 0 _ field located stands] at joined
  exact join_directives_ne _ _ joined.symm

end Scope

end GraphSchema
