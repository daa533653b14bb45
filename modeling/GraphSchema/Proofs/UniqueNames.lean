import GraphSchema.Proofs.Declarations
import GraphSchema.Proofs.Generation

/-!
When the types of a model have names of their own. The check keeps structs away from enums and from
their nullable wrappers, and what is fed back comes under new names. Nothing keeps two declarations
of the catalog apart: two tables, or two enums, may be spelled alike once their names have been
qualified, made singular and written in PascalCase. The main result says that this is the only way
in which a name can come twice.
-/

namespace GraphSchema

/-- All enums and structs have different names, and no struct that of an enum's nullable wrapper. -/
structure Model.NamesDistinct (model : Model) : Prop where
  nodup : (model.enums.map EnumType.name ++ model.structs.map Struct.name).Nodup
  wrappersFree : ∀ enumeration ∈ model.enums, ∀ struct ∈ model.structs,
    struct.name ≠ "Null" ++ enumeration.name

theorem struct_name_free_of_checked {model : Model} (checked : model.check = .ok ())
    {struct : Struct} (structMember : struct ∈ model.structs) {enumeration : EnumType}
    (enumMember : enumeration ∈ model.enums) :
    struct.name ≠ enumeration.name ∧ struct.name ≠ "Null" ++ enumeration.name := by
  have unreserved := check_ok_iff.1 checked struct structMember
  constructor
  · intro same
    exact unreserved (mem_reserved_names_iff.2 ⟨enumeration, enumMember, Or.inl same⟩)
  · intro same
    exact unreserved (mem_reserved_names_iff.2 ⟨enumeration, enumMember, Or.inr same⟩)

theorem names_distinct_iff_of_checked {model : Model} (checked : model.check = .ok ()) :
    model.NamesDistinct ↔
      (model.enums.map EnumType.name).Nodup ∧ (model.structs.map Struct.name).Nodup := by
  constructor
  · intro distinct
    exact ⟨distinct.nodup.of_append_left, distinct.nodup.of_append_right⟩
  · rintro ⟨enums, structs⟩
    refine ⟨List.nodup_append.2 ⟨enums, structs, ?_⟩, ?_⟩
    · intro name enumName other structName same
      obtain ⟨enumeration, enumMember, rfl⟩ := List.mem_map.1 enumName
      obtain ⟨struct, structMember, rfl⟩ := List.mem_map.1 structName
      exact (struct_name_free_of_checked checked structMember enumMember).1 same.symm
    · intro enumeration enumMember struct structMember
      exact (struct_name_free_of_checked checked structMember enumMember).2

theorem nodup_kept_iff {names kept : List String} {keep : String → Bool}
    (same : kept.Perm (names.filter keep)) :
    kept.Nodup ↔ ∀ name ∈ kept, names.count name ≤ 1 := by
  have counts : ∀ name ∈ kept, kept.count name = names.count name := by
    intro name member
    have passed := (List.mem_filter.1 (same.mem_iff.1 member)).2
    rw [same.count_eq, List.count_filter passed]
  rw [List.nodup_iff_count_le_one]
  constructor
  · intro once name member
    rw [← counts name member]
    exact once name
  · intro once name
    by_cases member : name ∈ kept
    · rw [counts name member]
      exact once name member
    · rw [List.count_eq_zero_of_not_mem member]
      exact Nat.zero_le 1

theorem Extends.count_name_le_one_iff {structs candidates result : List Struct}
    (extension : Extends structs candidates result) (name : String) :
    (result.map Struct.name).count name ≤ 1 ↔ (structs.map Struct.name).count name ≤ 1 := by
  obtain ⟨⟨added, rfl, distinct, fresh, _⟩, _⟩ := extension
  rw [List.map_append, List.count_append]
  by_cases known : name ∈ structs.map Struct.name
  · have absent : name ∉ added.map Struct.name := by
      intro appended
      obtain ⟨struct, member, rfl⟩ := List.mem_map.1 appended
      exact fresh struct member known
    rw [List.count_eq_zero_of_not_mem absent, Nat.add_zero]
  · have once := List.nodup_iff_count_le_one.1 distinct name
    rw [List.count_eq_zero_of_not_mem known, Nat.zero_add]
    exact iff_of_true once (Nat.zero_le 1)

namespace Generated

variable {request : Request} {options : ResolvedOptions} {fed : List Struct} {output : Output}

theorem enum_names_nodup_iff (generated : Generated request options fed output) :
    (output.enums.map EnumType.name).Nodup ↔ ∀ name ∈ output.enums.map EnumType.name,
      (Scope.ofRequest request options).enumNames.count name ≤ 1 := by
  have kept : output.enums.map EnumType.name =
      ((Scope.ofRequest request options).enums.map EnumType.name).filter
        (options.keepsEnum output.queries) := by
    rw [generated.enums, List.filter_map]
    rfl
  have declared : (output.enums.map EnumType.name).Perm
      ((Scope.ofRequest request options).enumNames.filter (options.keepsEnum output.queries)) :=
    kept ▸ (Scope.enum_names_perm _).filter _
  exact nodup_kept_iff declared

theorem struct_names_nodup_iff (generated : Generated request options fed output) :
    (output.structs.map Struct.name).Nodup ↔ ∀ name ∈ output.structs.map Struct.name,
      (Scope.ofRequest request options).modelNames.count name ≤ 1 := by
  have kept : (output.structs.map Struct.name).Perm
      ((fed.map Struct.name).filter (options.keepsStruct output.queries)) := by
    rw [generated.structs, List.filter_map]
    exact ((Text.perm_sortBy Struct.name fed).filter _).map Struct.name
  rw [nodup_kept_iff kept]
  refine forall₂_congr fun name _ => ?_
  rw [generated.extends_models.count_name_le_one_iff name, (Scope.model_names_perm _).count_eq]

end Generated

/-- Whenever a generation succeeds, no struct has the name of an enum or of its nullable wrapper;
and all names are distinct exactly when no name of the output is given to two enums of the catalog
or to two of its tables. -/
theorem names_distinct_iff_declared_once {request : Request} {options : ResolvedOptions}
    {output : Output} (success : generateWith request options = .ok output) :
    (∀ struct ∈ output.structs, ∀ enumeration ∈ output.enums,
      struct.name ≠ enumeration.name ∧ struct.name ≠ "Null" ++ enumeration.name) ∧
    (output.toModel.NamesDistinct ↔
      (∀ name ∈ output.enums.map EnumType.name,
        (Scope.ofRequest request options).enumNames.count name ≤ 1) ∧
      ∀ name ∈ output.structs.map Struct.name,
        (Scope.ofRequest request options).modelNames.count name ≤ 1) := by
  obtain ⟨fed, generated⟩ := generated_of_success success
  constructor
  · intro struct structMember enumeration enumMember
    exact struct_name_free_of_checked generated.checked structMember enumMember
  · rw [names_distinct_iff_of_checked generated.checked, generated.enum_names_nodup_iff,
      generated.struct_names_nodup_iff]

theorem bookshop_names_are_distinct :
    ∃ output, generateWith bookshop { package := "shop" } = .ok output ∧
      output.toModel.NamesDistinct := by
  obtain ⟨output, success, enums, structs⟩ := bookshop_generates
  refine ⟨output, success, (names_distinct_iff_declared_once success).2.2 ⟨?_, ?_⟩⟩
  · rw [enums]
    decide +kernel
  · rw [structs]
    decide +kernel

def singularAndPlural : Request where
  catalog := {
    defaultSchema := "public"
    schemas := [{
      name := "public"
      tables := [
        { rel := { name := "author" }, columns := [plainColumn none "id" "uuid"] },
        { rel := { name := "authors" }
          columns := [{ name := "name", nativeType := some { name := "text" } }] }] }] }

/-- Both tables give their models the one name, and the generation succeeds all the same. -/
theorem singular_and_plural_share_a_name :
    ∃ output, generateWith singularAndPlural { package := "db" } = .ok output ∧
      ¬output.toModel.NamesDistinct := by
  have names : (generateWith singularAndPlural { package := "db" }).toOption.map
      (fun output => output.structs.map Struct.name) = some ["Author", "Author"] := by
    decide +kernel
  obtain ⟨output, found, structs⟩ := Option.map_eq_some_iff.1 names
  refine ⟨output, Outcome.ok_of_to_option found, ?_⟩
  intro distinct
  have nodup := distinct.nodup.of_append_right
  rw [structs] at nodup
  exact absurd nodup (by decide)

end GraphSchema
