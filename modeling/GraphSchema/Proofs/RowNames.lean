import GraphSchema.Proofs.Generation
import GraphSchema.Proofs.RowFields

/-!
The names of the fields of a row whose sources have numbers of their own, as the columns of a result
have. The first field of a base name bears it, and each one after it is numbered by how often the
name has come. Without renames no number makes two names the same, for PascalCase leaves no
underscore in a name where a number could begin.
-/

namespace GraphSchema

theorem numbered_names_nodup {all : List NamedSource}
    (ids : (all.map (·.source.id)).Nodup)
    (unnamed : ∀ named ∈ all, named.source.column.isNamedParam = false)
    (numberable : ∀ named ∈ all, Naming.Numberable named.base) :
    (all.map fun named => numberedName named.base (fieldNumber all named.source.id)).Nodup := by
  have used : ∀ named ∈ all, firstUse? all named.source.id = some named := by
    intro named member
    obtain ⟨place, located⟩ := List.mem_iff_getElem?.1 member
    exact (first_use_of_own ids located).1
  apply List.Nodup.map_on _ (List.Nodup.of_map _ ids)
  intro left leftMember right rightMember same
  obtain ⟨sameBase, sameNumber⟩ :=
    numbered_name_inj (numberable left leftMember) (numberable right rightMember) same
  by_contra differ
  have idsDiffer : left.source.id ≠ right.source.id := by
    intro sameId
    exact differ (List.inj_on_of_nodup_map ids leftMember rightMember sameId)
  exact field_numbers_differ idsDiffer (used left leftMember) (used right rightMember)
    (unnamed left leftMember) (unnamed right rightMember) sameBase sameNumber

namespace Scope

/-- The names of the fields of a row before numbering, by position. -/
def baseNames (scope : Scope) (sources : List FieldSource) : List String :=
  sources.mapIdx fun position source => scope.structName (source.label position)

variable {scope : Scope} {sources : List FieldSource} {position : Nat} {source : FieldSource}

theorem base_names_at (scope : Scope) (position : Nat) (sources : List FieldSource) :
    (scope.baseNames sources)[position]? =
      sources[position]?.map fun source => scope.structName (source.label position) := by
  rw [baseNames, List.getElem?_mapIdx]

theorem base_names_eq (scope : Scope) (sources : List FieldSource) :
    (scope.nameSources 0 sources).map NamedSource.base = scope.baseNames sources := by
  apply List.ext_getElem?
  intro position
  rw [List.getElem?_map, name_sources_at, Option.map_map, base_names_at, Nat.zero_add]
  rfl

theorem name_sources_ids (scope : Scope) (start : Nat) (sources : List FieldSource) :
    (scope.nameSources start sources).map (·.source.id) = sources.map FieldSource.id := by
  induction sources generalizing start with
  | nil => rfl
  | cons source rest ih => exact congrArg (source.id :: ·) (ih _)

theorem source_of_named {named : NamedSource} {start : Nat}
    (member : named ∈ scope.nameSources start sources) :
    ∃ position source, sources[position]? = some source ∧
      named = scope.nameSource (start + position) source := by
  obtain ⟨position, located⟩ := List.mem_iff_getElem?.1 member
  rw [name_sources_at] at located
  obtain ⟨source, found, rfl⟩ := Option.map_eq_some_iff.1 located
  exact ⟨position, source, found, rfl⟩

theorem field_number_at (ids : (sources.map FieldSource.id).Nodup)
    (unnamed : ∀ source ∈ sources, source.column.isNamedParam = false)
    (located : sources[position]? = some source) {base : String}
    (based : scope.structName (source.label position) = base) :
    fieldNumber (scope.nameSources 0 sources) source.id =
      if base ∈ (scope.baseNames sources).take position then
        ((scope.baseNames sources).take (position + 1)).count base
      else 0 := by
  have stands : (scope.nameSources 0 sources)[position]? =
      some (scope.nameSource position source) := by
    rw [name_sources_at, located, Option.map_some, Nat.zero_add]
  have number := field_number_of_own (by rwa [name_sources_ids]) stands
  rw [NamedSource.uses, List.map_take, base_names_eq, nameSource, based,
    NamedSource.numberBehind, unnamed source (List.mem_of_getElem? located)] at number
  have upTo : ((scope.baseNames sources).take (position + 1)).count base =
      ((scope.baseNames sources).take position).count base + 1 := by
    rw [List.take_add_one, base_names_at, located, Option.map_some, based, Option.toList_some,
      List.count_append, List.count_singleton_self]
  rw [number, upTo]
  simp only [List.count_pos_iff, Bool.not_false, Bool.and_true, decide_eq_true_eq]

theorem row_field_names_nodup (name : String) (ids : (sources.map FieldSource.id).Nodup)
    (unnamed : ∀ source ∈ sources, source.column.isNamedParam = false)
    (numberable : ∀ base ∈ scope.baseNames sources, Naming.Numberable base) :
    ((scope.rowFields name sources).map fun field => field.name).Nodup := by
  rw [row_fields_eq, List.map_map]
  apply numbered_names_nodup
  · rwa [name_sources_ids]
  · intro named member
    obtain ⟨position, source, located, rfl⟩ := source_of_named member
    exact unnamed source (List.mem_of_getElem? located)
  · intro named member
    rw [← base_names_eq] at numberable
    exact numberable _ (List.mem_map_of_mem member)

theorem row_of_distinct_names {name : String}
    (distinct : ((scope.rowFields name sources).map fun field => field.name).Nodup)
    (modelPath : String) :
    ∃ struct, scope.row name modelPath sources = .ok struct ∧
      struct.fields = scope.rowFields name sources := by
  simp only [row, type_conflict_none_of_distinct distinct]
  exact ⟨_, rfl, rfl⟩

/-- In a row whose sources have numbers of their own, the first field of a base name bears it and
the others are numbered as they come. Without renames the names of the fields are distinct if there
is a letter or digit in every name that a field comes from, and then the row is made. -/
theorem row_names_count_up {sources : List FieldSource} (name modelPath : String)
    (ids : (sources.map FieldSource.id).Nodup)
    (unnamed : ∀ source ∈ sources, source.column.isNamedParam = false) :
    (∀ struct, scope.row name modelPath sources = .ok struct →
      struct.fields.length = sources.length ∧
      ∀ position base, (scope.baseNames sources)[position]? = some base →
        struct.fields[position]?.map (fun field => field.name) = some
          (if base ∈ (scope.baseNames sources).take position then
            base ++ "_" ++ (((scope.baseNames sources).take (position + 1)).count base).repr
          else base)) ∧
    ((∀ name, scope.options.rename.replacement? name = none) →
      (∀ (position : Nat) (source : FieldSource), sources[position]? = some source →
        ∃ c ∈ (source.label position).toList, Text.isAlphanumeric c) →
      ∃ struct, scope.row name modelPath sources = .ok struct ∧
        (struct.fields.map fun field => field.name).Nodup) := by
  constructor
  · intro struct made
    obtain ⟨_, rfl⟩ := row_ok made
    refine ⟨row_fields_length name sources, ?_⟩
    intro position base based
    rw [base_names_at] at based
    obtain ⟨source, located, own⟩ := Option.map_eq_some_iff.1 based
    have field : (scope.fieldAt name sources position source).name =
        numberedName base (fieldNumber (scope.nameSources 0 sources) source.id) := by
      rw [← own]
      rfl
    rw [row_field_of_source located, Option.map_some, field,
      field_number_at ids unnamed located own]
    by_cases behind : base ∈ (scope.baseNames sources).take position
    · have counted : ((scope.baseNames sources).take (position + 1)).count base ≠ 0 := by
        apply Nat.pos_iff_ne_zero.1
        exact List.count_pos_iff.2 (List.take_subset_take_left _ (Nat.le_succ position) behind)
      rw [if_pos behind, if_pos behind, numberedName, if_neg counted]
    · rw [if_neg behind, if_neg behind]
      rfl
  · intro unrenamed solid
    have numberable : ∀ base ∈ scope.baseNames sources, Naming.Numberable base := by
      intro base member
      obtain ⟨position, located⟩ := List.mem_iff_getElem?.1 member
      rw [base_names_at] at located
      obtain ⟨source, found, rfl⟩ := Option.map_eq_some_iff.1 located
      rw [structName, Naming.structName, unrenamed, Option.getD_none]
      exact Naming.pascal_case_numberable (solid position source found)
    have distinct := row_field_names_nodup name ids unnamed numberable
    obtain ⟨struct, made, fields⟩ := row_of_distinct_names distinct modelPath
    exact ⟨struct, made, fields ▸ distinct⟩

/-- A row that has three things called `Id`, one of them a whole record, and one called `Id2`. -/
def lookupSources : List FieldSource := [
  { id := 0, column := plainColumn none "id" "uuid", type := { scalar := .uuid } },
  { id := 1, column := plainColumn none "id_2" "uuid", type := { scalar := .uuid } },
  { id := 2, column := plainColumn none "ids" "", type := { scalar := .unknown },
    embed := some { name := "Id", fields := [] } },
  { id := 3, column := plainColumn none "id" "text", type := { scalar := .string } }]

theorem lookups_count_up :
    (lookupSources.map FieldSource.id).Nodup ∧
      (∀ source ∈ lookupSources, source.column.isNamedParam = false) ∧
      ∃ struct, (ofRequest {} { package := "db" }).row "Lookup" "db.Lookup" lookupSources =
          .ok struct ∧
        struct.fields[2]?.map (fun field => field.name) = some "Id_2" ∧
        struct.fields[3]?.map (fun field => field.name) = some "Id_3" ∧
        (struct.fields.map fun field => field.name).Nodup := by
  have ids : (lookupSources.map FieldSource.id).Nodup := by decide
  have unnamed : ∀ source ∈ lookupSources, source.column.isNamedParam = false := by decide
  have bases : (ofRequest {} { package := "db" }).baseNames lookupSources =
      ["Id", "Id2", "Id", "Id"] := by
    decide +kernel
  obtain ⟨counted, distinct⟩ :=
    (ofRequest {} { package := "db" }).row_names_count_up "Lookup" "db.Lookup" ids unnamed
  have solid (position : Nat) (source : FieldSource)
      (located : lookupSources[position]? = some source) :
      ∃ c ∈ (source.label position).toList, Text.isAlphanumeric c := by
    rcases position with _ | _ | _ | _ | _
    · cases located
      exact ⟨'i', by decide, by decide⟩
    · cases located
      exact ⟨'i', by decide, by decide⟩
    · cases located
      exact ⟨'I', by decide, by decide⟩
    · cases located
      exact ⟨'i', by decide, by decide⟩
    · cases located
  obtain ⟨struct, made, apart⟩ := distinct (fun _ => rfl) solid
  obtain ⟨_, names⟩ := counted struct made
  rw [bases] at names
  exact ⟨ids, unnamed, struct, made, names 2 "Id" rfl, names 3 "Id" rfl, apart⟩

end Scope

end GraphSchema
