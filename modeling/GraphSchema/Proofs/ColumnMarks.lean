import GraphSchema.Proofs.Declarations
import GraphSchema.Proofs.Generation
import Mathlib.Data.List.Find

/-!
The marks of a column and its base type. Whether a column may be null, and whether it holds several
values, shows in the marks of its GraphQL type alone: the base type is that of the column without
its marks, unless a rule for a native type asks for nullability. The host type is in a nullable
wrapper only where the GraphQL type is nullable. The converse does not hold of arrays, which are
never wrapped; slices, which are lists as well, are wrapped like single values.
-/

namespace GraphSchema

def Column.unmarked (column : Column) : Column :=
  { column with notNull := false, isArray := false, arrayDims := 0, isSlice := false }

namespace OverrideRule

/-- A rule for a native type that is restricted to columns that may be null. -/
structure ForNullOnly (rule : OverrideRule) : Prop where
  ofType : rule.isColumnScoped = false
  restricted : rule.nullable = some true

theorem hits_whatever_nullability {rule : OverrideRule}
    (free : rule.isColumnScoped = false → rule.nullable = none) (probe : ColumnProbe)
    (nullable : Bool) : rule.hits { probe with nullable } = rule.hits probe := by
  cases target : rule.target with
  | column pattern =>
      simp only [hits, target]
      rfl
  | dbType schema name =>
      have unrestricted := free (by simp [isColumnScoped, target])
      simp [hits, target, unrestricted]

theorem unmatched_for_null_only_iff {probe : ColumnProbe} :
    (∀ rule : OverrideRule, rule.ForNullOnly → rule.hits probe = false) ↔
      probe.nullable = false := by
  constructor
  · intro unmatched
    have own := unmatched
      { gqlType := "", target := .dbType (some probe.typeSchema) probe.typeName
        nullable := some true, unsigned := none } ⟨rfl, rfl⟩
    simpa [hits] using own
  · intro present rule forNull
    cases target : rule.target with
    | column pattern => simpa [isColumnScoped, target] using forNull.ofType
    | dbType schema name => simp [hits, target, forNull.restricted, present]

end OverrideRule

namespace OverrideSet

def IgnoresNullability (overrides : OverrideSet) : Prop :=
  ∀ rule ∈ overrides.rules, rule.isColumnScoped = false → rule.nullable = none

theorem IgnoresNullability.find_eq {overrides : OverrideSet}
    (ignores : overrides.IgnoresNullability) (probe : ColumnProbe) (nullable : Bool) :
    overrides.find? { probe with nullable } = overrides.find? probe := by
  have same : ∀ rule ∈ overrides.rules, rule.hits { probe with nullable } = rule.hits probe :=
    fun rule member => rule.hits_whatever_nullability (ignores rule member) probe nullable
  unfold find?
  congr 1
  · apply List.find?_congr
    intro rule member
    rw [same rule member]
  · apply List.find?_congr
    intro rule member
    rw [same rule member]

end OverrideSet

theorem Dialect.mysql_unmarked (column : Column) :
    ∀ row ∈ Dialect.mysql, row.2 column.unmarked = row.2 column := by
  simp only [Dialect.mysql, List.forall_mem_cons, List.not_mem_nil, false_implies, implies_true,
    true_and, and_true]
  and_intros <;> rfl

namespace Scope

theorem storage_unmarked (scope : Scope) (column : Column) :
    scope.storage column.unmarked = scope.storage column := by
  unfold Scope.storage
  cases scope.engine with
  | postgresql => rfl
  | sqlite => rfl
  | unsupported => rfl
  | mysql =>
      have sameType : column.unmarked.dataType = column.dataType := rfl
      simp only [sameType]
      split
      · rename_i storage found
        obtain ⟨names, member⟩ := Dialect.find_row found
        exact Dialect.mysql_unmarked column _ member
      · rfl

theorem target_host_unmarked {scope : Scope}
    (ignores : scope.options.overrides.IgnoresNullability) (column : Column) :
    (scope.target column.unmarked).host = (scope.target column).host := by
  have sameRule : scope.options.overrides.find? (scope.probe column.unmarked) =
      scope.options.overrides.find? (scope.probe column) :=
    ignores.find_eq (scope.probe column) true
  unfold target
  rw [sameRule]
  split
  · rfl
  · rw [target_host, target_host, storage_unmarked]

/-- A wrapper goes around what the column is mapped to, should the column be null. -/
def Wraps (scope : Scope) (column : Column) : Prop :=
  (scope.options.overrides.find? (scope.probe column)).isSome = true ∨
    ∃ host, scope.storage column = .wrapped host

theorem target_nullable_iff {scope : Scope} {column : Column} :
    (scope.target column).nullable = true ↔
      (column.isArray = false ∧ column.notNull = false) ∧ scope.Wraps column := by
  have nullable : column.mapsNotNull = false ↔
      column.isArray = false ∧ column.notNull = false := by
    simp [Column.mapsNotNull, and_comm]
  rw [← nullable]
  unfold target Wraps
  cases scope.options.overrides.find? (scope.probe column) with
  | some rule => simp [Storage.target]
  | none => cases scope.storage column <;> simp [Storage.target]

end Scope

/-- Columns that differ in their marks alone have one host type and one base type, where no rule for
a native type asks for nullability. The marks of a column are those of its GraphQL type, which is
never non-null where the host type is in a nullable wrapper. -/
theorem marks_leave_base_types (scope : Scope) :
    (scope.options.overrides.IgnoresNullability →
      ∀ column other : Column, column.unmarked = other.unmarked →
        (scope.target column).host = (scope.target other).host ∧
        (scope.typeOf column).scalar = (scope.typeOf other).scalar) ∧
    (∀ column : Column,
      ((scope.typeOf column).nonNull = true ↔ column.notNull = true) ∧
      ((scope.typeOf column).list = true ↔ column.isArray = true ∨ column.isSlice = true)) ∧
    ∀ column : Column,
      (scope.target column).nullable = true → (scope.typeOf column).nonNull = false := by
  refine ⟨?_, ?_, ?_⟩
  · intro ignores column other same
    have sameHost : (scope.target column).host = (scope.target other).host := by
      rw [← Scope.target_host_unmarked ignores, same, Scope.target_host_unmarked ignores]
    exact ⟨sameHost, congrArg Scalar.ofHost sameHost⟩
  · intro column
    simp [Scope.typeOf, or_comm]
  · intro column nullable
    exact (Scope.target_nullable_iff.1 nullable).1.2

def authorIds : Column := plainColumn none "ids" "uuid"

theorem lists_of_authors_are_authors :
    ((Scope.ofRequest library libraryOptions).target
        { authorIds with notNull := false, isArray := true, arrayDims := 1 }).host =
      .override "Author" ∧
    ((Scope.ofRequest library libraryOptions).typeOf
        { authorIds with notNull := false, isSlice := true }).scalar = .named "Author" := by
  have ignores :
      (Scope.ofRequest library libraryOptions).options.overrides.IgnoresNullability := by
    unfold OverrideSet.IgnoresNullability
    decide
  have bases := (marks_leave_base_types (Scope.ofRequest library libraryOptions)).1 ignores
  have single : ((Scope.ofRequest library libraryOptions).target authorIds).host =
      .override "Author" := by
    decide
  constructor
  · exact (bases _ authorIds rfl).1.trans single
  · exact (bases _ authorIds rfl).2.trans (congrArg Scalar.ofHost single)

/-- A column is mapped without a wrapper exactly when it is an array or not null or nothing that it
is mapped to takes a wrapper, and no rule that is restricted to nullable columns can match it
exactly when it is an array or not null. That it is a slice does not count. -/
theorem columns_map_not_null_iff (scope : Scope) (column : Column) :
    ((scope.target column).nullable = false ↔
      column.isArray = true ∨ column.notNull = true ∨ ¬scope.Wraps column) ∧
    ((∀ rule : OverrideRule, rule.ForNullOnly → rule.hits (scope.probe column) = false) ↔
      column.isArray = true ∨ column.notNull = true) := by
  constructor
  · rw [← Bool.not_eq_true, Scope.target_nullable_iff]
    cases column.isArray <;> cases column.notNull <;> simp
  · rw [OverrideRule.unmatched_for_null_only_iff]
    cases array : column.isArray <;> simp [Scope.probe, Column.mapsNotNull, array]

def slicedScope : Scope where
  engine := .postgresql
  catalog := { defaultSchema := "public" }
  options := {
    package := "db"
    overrides := { rules := [
      { gqlType := "MaybeText", target := .dbType none "citext", nullable := some true
        unsigned := none }] } }
  defaultSchema := "public"

/-- A slice of identifiers is wrapped, and a slice of texts is replaced. -/
theorem slices_map_as_nullable :
    (slicedScope.target { name := "ids", isSlice := true, nativeType := some { name := "uuid" } }) =
      ⟨.uuid, true⟩ ∧
    ∃ rule ∈ slicedScope.options.overrides.rules, rule.ForNullOnly ∧
      rule.hits (slicedScope.probe
        { name := "tags", isSlice := true, nativeType := some { name := "citext" } }) = true := by
  exact ⟨by decide, _, List.mem_cons_self, ⟨rfl, rfl⟩, by decide⟩

end GraphSchema
