import GraphSchema.Proofs.FieldNumbers

/-!
The fields of a row by position. The field at a position comes from the source there; only its
number and its type depend on the other sources, and both can be read off the list of all of them.
-/

namespace GraphSchema.Scope

/-- A source with the names that its field has at a position. -/
def nameSource (scope : Scope) (position : Nat) (source : FieldSource) : NamedSource where
  source := source
  base := scope.structName (source.label position)
  dbName := source.dbName position

/-- The field that the source at a position makes in a row. -/
def fieldAt (scope : Scope) (struct : String) (sources : List FieldSource) (position : Nat)
    (source : FieldSource) : Field :=
  let all := scope.nameSources 0 sources
  let named := scope.nameSource position source
  scope.rowField struct named (fieldNumber all source.id) (named.finalType all)

variable {scope : Scope}

theorem name_sources_at (start position : Nat) (sources : List FieldSource) :
    (scope.nameSources start sources)[position]? =
      sources[position]?.map (scope.nameSource (start + position)) := by
  induction sources generalizing start position with
  | nil => rfl
  | cons source rest ih =>
      cases position with
      | zero => rfl
      | succ position =>
          simp only [nameSources, List.getElem?_cons_succ, ih]
          rw [Nat.add_right_comm, Nat.add_assoc]

theorem name_sources_length (start : Nat) (sources : List FieldSource) :
    (scope.nameSources start sources).length = sources.length := by
  induction sources generalizing start with
  | nil => rfl
  | cons source rest ih => exact congrArg (· + 1) (ih _)

theorem row_fields_length (name : String) (sources : List FieldSource) :
    (scope.rowFields name sources).length = sources.length := by
  rw [row_fields_eq, List.length_map, name_sources_length]

theorem row_fields_at (name : String) (sources : List FieldSource) (position : Nat) :
    (scope.rowFields name sources)[position]? =
      sources[position]?.map (scope.fieldAt name sources position) := by
  rw [row_fields_eq, List.getElem?_map, name_sources_at, Option.map_map, Nat.zero_add]
  rfl

theorem row_field_of_source {sources : List FieldSource} {position : Nat} {source : FieldSource}
    (located : sources[position]? = some source) (name : String) :
    (scope.rowFields name sources)[position]? =
      some (scope.fieldAt name sources position source) := by
  rw [row_fields_at, located, Option.map_some]

theorem field_type_of_known {source : FieldSource} (known : source.ownType.isUnknown = false)
    (name : String) (sources : List FieldSource) (position : Nat) :
    (scope.fieldAt name sources position source).type = source.ownType := by
  have named : (scope.nameSource position source).source.ownType.isUnknown = false := known
  simp only [fieldAt, rowField, NamedSource.finalType, named, Bool.false_eq_true, if_false]
  rfl

end GraphSchema.Scope
