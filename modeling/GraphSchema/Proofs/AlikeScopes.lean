import GraphSchema.Assembly.Enums
import GraphSchema.Proofs.Bindings

/-!
What a generation takes from its catalog besides tables and enums: the types of columns. They depend
on which enums and composite types the user schemas declare, and on the order of these schemas, but
not on the order within a schema or on what the other schemas hold. Scopes with the same options
that give all columns the same types are alike, and then all that is made in one scope is made in
the other.
-/

namespace GraphSchema

namespace Catalog

def DeclaresEnum (catalog : Catalog) (schema name : String) : Prop :=
  ∃ found ∈ catalog.userSchemas, found.name = schema ∧ name ∈ found.enums.map CatalogEnum.name

def DeclaresComposite (catalog : Catalog) (schema name : String) : Prop :=
  ∃ found ∈ catalog.userSchemas,
    found.name = schema ∧ name ∈ found.compositeTypes.map CompositeType.name

/-- Two catalogs have user schemas of the same names in the same order, and declare in them types of
the same names. -/
structure SameTypes (left right : Catalog) : Prop where
  schemas : left.userSchemas.map Schema.name = right.userSchemas.map Schema.name
  enums : ∀ schema name, left.DeclaresEnum schema name ↔ right.DeclaresEnum schema name
  compositeTypes : ∀ schema name,
    left.DeclaresComposite schema name ↔ right.DeclaresComposite schema name

theorem same_types_of_user_schemas {left right : Catalog}
    (same : left.userSchemas = right.userSchemas) : left.SameTypes right where
  schemas := by rw [same]
  enums schema name := by rw [DeclaresEnum, DeclaresEnum, same]
  compositeTypes schema name := by rw [DeclaresComposite, DeclaresComposite, same]

end Catalog

namespace Scope

variable {left right : Scope}

/-- An enum is known by its name and its schema's, whatever else there is in the catalog. -/
theorem enum_host_eq_some_iff {scope : Scope} {schema name : String} {host : HostType} :
    scope.enumHost? schema name = some host ↔ scope.catalog.DeclaresEnum schema name ∧
      host = .enumeration (scope.structName (scope.qualify schema name)) := by
  have owners : ∀ owner, owner ∈ scope.schemasNamed schema ↔
      owner ∈ scope.catalog.userSchemas ∧ owner.name = schema := by
    simp [schemasNamed]
  have found_host {owner : Schema} {found : HostType} (named : owner.name = schema)
      (located : (owner.enums.find? (·.name = name)).map (fun enumeration =>
        HostType.enumeration (scope.structName (scope.qualify owner.name enumeration.name))) =
          some found) :
      name ∈ owner.enums.map CatalogEnum.name ∧
        found = .enumeration (scope.structName (scope.qualify schema name)) := by
    obtain ⟨source, selected, rfl⟩ := Option.map_eq_some_iff.1 located
    have sameName : source.name = name := by simpa using List.find?_some selected
    exact ⟨List.mem_map.2 ⟨source, List.mem_of_find?_eq_some selected, sameName⟩,
      by rw [named, sameName]⟩
  constructor
  · intro found
    obtain ⟨owner, member, located⟩ := List.exists_of_findSome?_eq_some found
    obtain ⟨declared, named⟩ := (owners owner).1 member
    obtain ⟨inOwner, same⟩ := found_host named located
    exact ⟨⟨owner, declared, named, inOwner⟩, same⟩
  · rintro ⟨⟨owner, declared, named, inOwner⟩, rfl⟩
    obtain ⟨source, sourceMember, sameName⟩ := List.mem_map.1 inOwner
    cases located : scope.enumHost? schema name with
    | none =>
        have absent := List.findSome?_eq_none_iff.1 located owner ((owners owner).2 ⟨declared, named⟩)
        rw [Option.map_eq_none_iff, List.find?_eq_none] at absent
        exact absurd (decide_eq_true sameName) (absent source sourceMember)
    | some host =>
        obtain ⟨other, member, inOther⟩ := List.exists_of_findSome?_eq_some located
        rw [(found_host ((owners other).1 member).2 inOther).2]

theorem has_composite_iff {scope : Scope} {schema name : String} :
    scope.hasComposite schema name = true ↔ scope.catalog.DeclaresComposite schema name := by
  simp [hasComposite, schemasNamed, Catalog.DeclaresComposite]

/-- Two scopes that name things by the same rules and give each column the same type. -/
structure Alike (left right : Scope) : Prop where
  options : left.options = right.options
  defaultSchema : left.defaultSchema = right.defaultSchema
  typeOf : left.typeOf = right.typeOf

section Types

variable (sameTypes : left.catalog.SameTypes right.catalog) (options : left.options = right.options)
  (defaultSchema : left.defaultSchema = right.defaultSchema)

include sameTypes options defaultSchema

theorem enum_host_congr : left.enumHost? = right.enumHost? := by
  funext schema name
  apply Option.ext
  intro host
  rw [enum_host_eq_some_iff, enum_host_eq_some_iff, sameTypes.enums]
  simp only [structName, qualify, options, defaultSchema]

theorem declared_storage_congr : left.declaredStorage = right.declaredStorage := by
  have composites : left.hasComposite = right.hasComposite := by
    funext schema name
    rw [Bool.eq_iff_iff, has_composite_iff, has_composite_iff, sameTypes.compositeTypes]
  funext nativeType
  simp only [declaredStorage, enum_host_congr sameTypes options defaultSchema, composites,
    defaultSchema]

theorem enum_storage_congr : left.enumStorage = right.enumStorage := by
  funext nativeType
  have byName (schemas : List Schema) :
      schemas.findSome? (fun schema => right.enumHost? schema.name nativeType.name) =
        (schemas.map Schema.name).findSome? fun schema =>
          right.enumHost? schema nativeType.name := by
    rw [List.findSome?_map]
    rfl
  have sameHost :
      left.catalog.userSchemas.findSome? (fun schema =>
          left.enumHost? schema.name nativeType.name) =
        right.catalog.userSchemas.findSome? fun schema =>
          right.enumHost? schema.name nativeType.name := by
    rw [enum_host_congr sameTypes options defaultSchema, byName, byName, sameTypes.schemas]
  simp only [enumStorage, sameHost]

theorem alike_of_same_types (engine : left.engine = right.engine) : left.Alike right := by
  refine ⟨options, defaultSchema, ?_⟩
  have storages : left.storage = right.storage := by
    funext column
    simp only [storage, engine, declared_storage_congr sameTypes options defaultSchema,
      enum_storage_congr sameTypes options defaultSchema]
  funext column
  simp only [Scope.typeOf, target, probe, options, defaultSchema, storages]

end Types

namespace Alike

variable (alike : left.Alike right)

include alike

theorem struct_name : left.structName = right.structName := by
  funext name
  rw [structName, structName, alike.options]

theorem model_path : left.modelPath = right.modelPath := by
  funext name
  rw [modelPath, modelPath, alike.options]

theorem directives : left.directives = right.directives := by
  funext typeName field
  rw [Scope.directives, Scope.directives, alike.options]

theorem qualify : left.qualify = right.qualify := by
  funext schema name
  rw [Scope.qualify, Scope.qualify, alike.defaultSchema]

theorem enum_type : left.enumType = right.enumType := by
  funext schema source
  simp only [enumType, alike.struct_name, alike.qualify, alike.directives]

theorem model : left.model = right.model := by
  have fields : left.modelField = right.modelField := by
    funext struct column
    simp only [modelField, alike.struct_name, alike.typeOf, alike.directives]
  funext schema table
  simp only [Scope.model, tableName, alike.struct_name, alike.qualify, alike.options, fields,
    alike.directives, alike.model_path]

theorem name_sources : left.nameSources = right.nameSources := by
  funext position sources
  induction sources generalizing position with
  | nil => rfl
  | cons source rest ih => simp only [nameSources, alike.struct_name, ih]

theorem row : left.row = right.row := by
  funext name modelPath sources
  simp only [Scope.row, rowFields, rowField, alike.name_sources, alike.directives]

theorem argument : left.argument = right.argument := by
  have sources : left.argumentSources = right.argumentSources := by
    have parameters : left.parameterSource = right.parameterSource := by
      funext parameter
      simp only [parameterSource, alike.typeOf]
    funext annotated
    simp only [argumentSources, parameters]
  have lone : left.scalarArgument = right.scalarArgument := by
    funext parameter
    simp only [scalarArgument, alike.typeOf]
  have inputs : left.structArgument = right.structArgument := by
    funext annotated
    simp only [structArgument, sources, alike.row, alike.model_path, alike.options]
  funext annotated
  simp only [Scope.argument, inputs, lone, alike.options]

theorem matching_model : left.matchingModel? = right.matchingModel? := by
  have fits : left.columnFits = right.columnFits := by
    funext table position field column
    simp only [columnFits, alike.struct_name, alike.typeOf, alike.defaultSchema]
  have allFit : left.columnsFit = right.columnsFit := by
    funext table position fields columns
    induction fields generalizing position columns with
    | nil => cases columns <;> rfl
    | cons field fields ih =>
        cases columns with
        | nil => rfl
        | cons column columns => simp only [columnsFit, fits, ih]
  funext structs columns
  simp only [matchingModel?, allFit]

theorem result_sources : left.resultSources = right.resultSources := by
  have embedded : left.embeddedModel? = right.embeddedModel? := by
    funext structs table
    simp only [embeddedModel?, alike.defaultSchema]
  funext structs position columns
  induction columns generalizing position with
  | nil => rfl
  | cons column rest ih => simp only [resultSources, alike.typeOf, embedded, ih]

theorem result : left.result = right.result := by
  have lone : left.scalarResult = right.scalarResult := by
    funext query column
    simp only [scalarResult, alike.typeOf, alike.model_path]
  have rows : left.rowResult = right.rowResult := by
    funext structs annotated
    simp only [rowResult, alike.row, alike.model_path, alike.result_sources]
  funext structs annotated
  simp only [Scope.result, structResult, modelResult, lone, rows, alike.matching_model,
    alike.model_path]

theorem bind : left.bind = right.bind := by
  funext structs annotated
  simp only [Scope.bind, alike.argument, alike.result, alike.directives]

end Alike

end Scope

end GraphSchema
