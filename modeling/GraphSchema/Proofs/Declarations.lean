import GraphSchema.Assembly.Generate

/-!
What the catalog declares: the names that its enums and its tables' models get, and the types that
its columns have. A column's type bears a name only if an override gave it, if it is an enum of the
catalog, or if it is the one library type among the native ones.
-/

namespace GraphSchema

namespace Scope

def enumNames (scope : Scope) : List String :=
  scope.catalog.userSchemas.flatMap fun schema => schema.enums.map fun source =>
    scope.structName (scope.qualify schema.name source.name)

def modelNames (scope : Scope) : List String :=
  scope.catalog.userSchemas.flatMap fun schema => schema.tables.map fun table =>
    scope.structName (scope.tableName schema table)

theorem enum_names_perm (scope : Scope) :
    (scope.enums.map EnumType.name).Perm scope.enumNames := by
  have inOrder : scope.catalogEnums.map EnumType.name = scope.enumNames := by
    simp only [catalogEnums, enumNames, List.map_flatMap, List.map_map]
    rfl
  exact inOrder ▸ (Text.perm_sortBy EnumType.name scope.catalogEnums).map EnumType.name

theorem model_names_perm (scope : Scope) :
    (scope.models.map Struct.name).Perm scope.modelNames := by
  have inOrder : scope.catalogModels.map Struct.name = scope.modelNames := by
    simp only [catalogModels, modelNames, List.map_flatMap, List.map_map]
    rfl
  exact inOrder ▸ (Text.perm_sortBy Struct.name scope.catalogModels).map Struct.name

theorem mem_models_iff {scope : Scope} {struct : Struct} :
    struct ∈ scope.models ↔ ∃ schema ∈ scope.catalog.userSchemas, ∃ table ∈ schema.tables,
      scope.model schema table = struct := by
  unfold models
  rw [(Text.perm_sortBy Struct.name scope.catalogModels).mem_iff]
  simp [catalogModels]

theorem enum_host_declared {scope : Scope} {schema name : String} {host : HostType}
    (found : scope.enumHost? schema name = some host) :
    ∃ declared ∈ scope.enumNames, host = .enumeration declared := by
  obtain ⟨owner, member, located⟩ := List.exists_of_findSome?_eq_some found
  obtain ⟨source, selected, rfl⟩ := Option.map_eq_some_iff.1 located
  refine ⟨_, ?_, rfl⟩
  refine List.mem_flatMap.2 ⟨owner, (List.mem_filter.1 member).1, ?_⟩
  exact List.mem_map.2 ⟨source, List.mem_of_find?_eq_some selected, rfl⟩

end Scope

/-- The host types that engines have of their own. One of them is a library's. -/
def HostType.isNative : HostType → Bool
  | enumeration _ | override _ => false
  | qualified path => path = "pgtype.Uint32"
  | _ => true

theorem native_scalar_name {host : HostType} (native : host.isNative = true) {name : String}
    (named : Scalar.ofHost host = .named name) : name = "Uint32" := by
  cases host <;> simp [HostType.isNative, Scalar.ofHost] at native named
  subst native
  rw [← named]
  decide

namespace Dialect

theorem find_row {Value : Type} {table : NativeTable Value} {name : String} {value : Value}
    (found : table.find? name = some value) : ∃ names, (names, value) ∈ table := by
  obtain ⟨⟨names, other⟩, member, selected⟩ := List.exists_of_findSome?_eq_some found
  simp only [Option.ite_none_right_eq_some] at selected
  exact ⟨names, Option.some.inj selected.2 ▸ member⟩

theorem postgres_native : ∀ row ∈ postgres, row.2.host.isNative = true := by decide

theorem mysql_native (column : Column) :
    ∀ row ∈ mysql, (row.2 column).host.isNative = true := by
  simp only [mysql, whole, List.forall_mem_cons, List.not_mem_nil]
  cases column.unsigned <;> by_cases single : column.length = 1 <;>
    simp [single, Storage.host, Storage.unmapped, HostType.isNative]

theorem sqlite_native : ∀ row ∈ sqlite, row.2.host.isNative = true := by decide

theorem sqlite_openings_native : ∀ row ∈ sqliteOpenings, row.2.host.isNative = true := by decide

end Dialect

namespace Scope

def Stores (scope : Scope) (storage : Storage) : Prop :=
  storage.host.isNative = true ∨ ∃ declared ∈ scope.enumNames, storage.host = .enumeration declared

theorem stores_unmapped (scope : Scope) : scope.Stores .unmapped := Or.inl rfl

theorem declared_storage_stores (scope : Scope) (nativeType : Identifier) :
    scope.Stores (scope.declaredStorage nativeType) := by
  simp only [declaredStorage]
  split
  · rename_i host found
    exact Or.inr (enum_host_declared found)
  · split
    · exact Or.inl rfl
    · exact scope.stores_unmapped

theorem enum_storage_stores (scope : Scope) (nativeType : Identifier) :
    scope.Stores (scope.enumStorage nativeType) := by
  unfold enumStorage
  split
  · rename_i host found
    obtain ⟨schema, _, located⟩ := List.exists_of_findSome?_eq_some found
    exact Or.inr (enum_host_declared located)
  · exact scope.stores_unmapped

theorem storage_stores (scope : Scope) (column : Column) : scope.Stores (scope.storage column) := by
  have catalogType (storage : Identifier → Storage) (stores : ∀ type, scope.Stores (storage type)) :
      scope.Stores ((column.nativeType.map storage).getD .unmapped) := by
    cases column.nativeType with
    | none => exact scope.stores_unmapped
    | some nativeType => exact stores nativeType
  unfold Scope.storage
  split
  · split
    · rename_i storage found
      obtain ⟨names, member⟩ := Dialect.find_row found
      exact Or.inl (Dialect.postgres_native _ member)
    · exact catalogType _ scope.declared_storage_stores
  · split
    · rename_i storage found
      obtain ⟨names, member⟩ := Dialect.find_row found
      exact Or.inl (Dialect.mysql_native column _ member)
    · exact catalogType _ scope.enum_storage_stores
  · simp only
    split
    · rename_i storage found
      obtain ⟨names, member⟩ := Dialect.find_row found
      exact Or.inl (Dialect.sqlite_native _ member)
    · split
      · rename_i opening found
        exact Or.inl (Dialect.sqlite_openings_native _ (List.mem_of_find?_eq_some found))
      · exact scope.stores_unmapped
  · exact scope.stores_unmapped

theorem target_host (storage : Storage) (notNull : Bool) :
    (storage.target notNull).host = storage.host := by
  cases storage <;> rfl

/-- The host type of a column is native, an enum of the catalog, or the replacement of a rule. -/
theorem target_cases (scope : Scope) (column : Column) :
    (scope.target column).host.isNative = true ∨
      (∃ declared ∈ scope.enumNames, (scope.target column).host = .enumeration declared) ∨
      ∃ rule ∈ scope.options.overrides.rules, (scope.target column).host = .override rule.gqlType := by
  unfold target
  split
  · rename_i rule found
    refine Or.inr (Or.inr ⟨rule, ?_, rfl⟩)
    rcases Option.or_eq_some_iff.1 found with columnRule | ⟨_, typeRule⟩
    · exact List.mem_of_find?_eq_some columnRule
    · exact List.mem_of_find?_eq_some typeRule
  · rw [target_host]
    exact (scope.storage_stores column).imp_right Or.inl

theorem target_enumeration_declared {scope : Scope} {column : Column} {name : String}
    (mapped : (scope.target column).host = .enumeration name) : name ∈ scope.enumNames := by
  rcases scope.target_cases column with native | ⟨declared, member, host⟩ | ⟨rule, _, host⟩
  · rw [mapped] at native
    cases native
  · rw [mapped] at host
    exact HostType.enumeration.inj host ▸ member
  · rw [mapped] at host
    cases host

def ColumnTypeName (scope : Scope) (name : String) : Prop :=
  name ∈ scope.enumNames ∨ name = "Uint32" ∨
    ∃ rule ∈ scope.options.overrides.rules, rule.gqlType = name

theorem type_of_named {scope : Scope} {column : Column} {name : String}
    (named : (scope.typeOf column).scalar = .named name) : scope.ColumnTypeName name := by
  have scalar : Scalar.ofHost (scope.target column).host = .named name := named
  rcases scope.target_cases column with native | ⟨declared, member, host⟩ | ⟨rule, member, host⟩
  · exact Or.inr (Or.inl (native_scalar_name native scalar))
  · rw [host] at scalar
    exact Or.inl (Scalar.named.inj scalar ▸ member)
  · rw [host] at scalar
    exact Or.inr (Or.inr ⟨rule, member, Scalar.named.inj scalar⟩)

end Scope

end GraphSchema
