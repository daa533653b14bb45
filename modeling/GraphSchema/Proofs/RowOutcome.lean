import GraphSchema.Proofs.FieldTypes
import GraphSchema.Proofs.RowFields

/-!
What becomes of a row. The final type of each field is told by the sources alone: its own if it is
known, and otherwise that of the lowest position with its base name whose own type is known. The row
is made exactly when fields of one name have one final type, and it is refused at the lowest
position whose final type is not that of the first field of its name.
-/

namespace GraphSchema

theorem find_some_eq_some_iff_lowest {Item Result : Type} {search : Item → Option Result}
    {items : List Item} {result : Result} :
    items.findSome? search = some result ↔
      ∃ (place : Nat) (item : Item), items[place]? = some item ∧ search item = some result ∧
        ∀ earlier < place, ∀ other, items[earlier]? = some other → search other = none := by
  constructor
  · intro found
    obtain ⟨before, item, after, rfl, yields, nothing⟩ := List.findSome?_eq_some_iff.1 found
    refine ⟨before.length, item, by simp, yields, ?_⟩
    intro earlier less other located
    rw [List.getElem?_append_left less] at located
    exact nothing other (List.mem_of_getElem? located)
  · rintro ⟨place, item, located, yields, nothing⟩
    obtain ⟨bound, rfl⟩ := List.getElem?_eq_some_iff.1 located
    apply List.findSome?_eq_some_iff.2
    refine ⟨items.take place, items[place], items.drop (place + 1), by simp, yields, ?_⟩
    intro other member
    obtain ⟨earlier, less, rfl⟩ := List.mem_take_iff_getElem.1 member
    apply nothing earlier (by omega)
    exact List.getElem?_eq_getElem _

/-- The type that a source has by itself: that of the row of a model which it embeds, which may be
null, or else that of its column. -/
inductive FieldSource.HasType (source : FieldSource) : TypeRef → Prop
  | row {model : EmbeddedModel} (embeds : source.embed = some model) :
      source.HasType { scalar := .named model.name, nonNull := false, list := false }
  | column (plain : source.embed = none) : source.HasType source.type

theorem FieldSource.has_type_iff {source : FieldSource} {type : TypeRef} :
    source.HasType type ↔ source.ownType = type := by
  unfold ownType
  constructor
  · intro has
    cases has with
    | row embeds => rw [embeds]
    | column plain => rw [plain]
  · intro same
    cases embeds : source.embed with
    | some model =>
        rw [embeds] at same
        exact same ▸ .row embeds
    | none =>
        rw [embeds] at same
        exact same ▸ .column embeds

def Scope.Bases (scope : Scope) (sources : List FieldSource) (position : Nat) (base : String)
    (type : TypeRef) : Prop :=
  ∃ source, sources[position]? = some source ∧
    scope.structName (source.label position) = base ∧ source.HasType type

/-- The final type of the field at a position, as the sources tell it. -/
inductive FinalType (scope : Scope) (sources : List FieldSource) (position : Nat) :
    TypeRef → Prop
  | own {base : String} {type : TypeRef} (own : scope.Bases sources position base type)
      (known : type.scalar ≠ .unknown) : FinalType scope sources position type
  | adopted {place : Nat} {base : String} {type lent : TypeRef}
      (own : scope.Bases sources position base type) (unknown : type.scalar = .unknown)
      (lending : scope.Bases sources place base lent) (known : lent.scalar ≠ .unknown)
      (lowest : ∀ earlier < place, ∀ other, scope.Bases sources earlier base other →
        other.scalar = .unknown) : FinalType scope sources position lent
  | unsettled {base : String} {type : TypeRef} (own : scope.Bases sources position base type)
      (nowhere : ∀ place other, scope.Bases sources place base other →
        other.scalar = .unknown) : FinalType scope sources position type

/-- At `place` stands the first field whose type is not that of the first field of its name. -/
structure FirstConflict (fields : List Field) (place : Nat) (first second : Field) : Prop where
  located : fields[place]? = some second
  leading : fields.find? (·.name = second.name) = some first
  differ : first.type ≠ second.type
  lowest : ∀ earlier < place, ∀ field leader, fields[earlier]? = some field →
    fields.find? (·.name = field.name) = some leader → leader.type = field.type

namespace Scope

variable {scope : Scope} {sources : List FieldSource} {position : Nat} {source : FieldSource}

theorem typed_at_iff {place : Nat} {base : String} {type : TypeRef} :
    ((scope.nameSources 0 sources).map NamedSource.typed)[place]? = some (base, type) ↔
      scope.Bases sources place base type := by
  rw [List.getElem?_map, name_sources_at, Option.map_map, Option.map_eq_some_iff, Nat.zero_add]
  constructor
  · intro at_place
    have ⟨source, located, same⟩ := at_place
    have ⟨named, typed⟩ := Prod.mk.inj same
    exact ⟨source, located, named, FieldSource.has_type_iff.2 typed⟩
  · intro bases
    have ⟨source, located, named, typed⟩ := bases
    exact ⟨source, located, Prod.ext named (FieldSource.has_type_iff.1 typed)⟩

theorem known_type_eq_some_iff {base : String} {type : TypeRef} :
    knownType? ((scope.nameSources 0 sources).map NamedSource.typed) base = some type ↔
      ∃ place, scope.Bases sources place base type ∧ type.scalar ≠ .unknown ∧
        ∀ earlier < place, ∀ other, scope.Bases sources earlier base other →
          other.scalar = .unknown := by
  rw [knownType?, find_some_eq_some_iff_lowest]
  constructor
  · intro found
    obtain ⟨place, ⟨other, own⟩, located, yields, nothing⟩ := found
    simp only [Option.ite_none_right_eq_some, Bool.and_eq_true, decide_eq_true_eq,
      Bool.not_eq_true', TypeRef.isUnknown, decide_eq_false_iff_not, Option.some.injEq] at yields
    obtain ⟨⟨rfl, known⟩, rfl⟩ := yields
    refine ⟨place, typed_at_iff.1 located, known, ?_⟩
    intro earlier less type based
    have skipped := nothing earlier less _ (typed_at_iff.2 based)
    simpa [TypeRef.isUnknown] using skipped
  · intro lent
    obtain ⟨place, lending, known, lowest⟩ := lent
    refine ⟨place, _, typed_at_iff.2 lending, by simp [TypeRef.isUnknown, known], ?_⟩
    intro earlier less entry located
    obtain ⟨other, own⟩ := entry
    by_cases same : other = base
    · subst same
      simp [TypeRef.isUnknown, lowest earlier less own (typed_at_iff.1 located)]
    · simp [same]

theorem known_type_eq_none_iff {base : String} :
    knownType? ((scope.nameSources 0 sources).map NamedSource.typed) base = none ↔
      ∀ place other, scope.Bases sources place base other → other.scalar = .unknown := by
  rw [knownType?, List.findSome?_eq_none_iff]
  constructor
  · intro nothing place other based
    have skipped := nothing _ (List.mem_of_getElem? (typed_at_iff.2 based))
    simpa [TypeRef.isUnknown] using skipped
  · intro unknown entry member
    obtain ⟨other, own⟩ := entry
    obtain ⟨place, located⟩ := List.mem_iff_getElem?.1 member
    by_cases same : other = base
    · subst same
      simp [TypeRef.isUnknown, unknown place own (typed_at_iff.1 located)]
    · simp [same]

theorem final_type_iff (located : sources[position]? = some source) (name : String)
    (type : TypeRef) :
    FinalType scope sources position type ↔
      (scope.fieldAt name sources position source).type = type := by
  have settled : (scope.fieldAt name sources position source).type =
      if source.ownType.isUnknown then
        (knownType? ((scope.nameSources 0 sources).map NamedSource.typed)
          (scope.structName (source.label position))).getD source.ownType
      else source.ownType := rfl
  simp only [TypeRef.isUnknown, decide_eq_true_eq] at settled
  have alone {base : String} {own : TypeRef} (bases : scope.Bases sources position base own) :
      scope.structName (source.label position) = base ∧ source.ownType = own := by
    have ⟨other, found, named, typed⟩ := bases
    obtain rfl := Option.some.inj (found.symm.trans located)
    exact ⟨named, FieldSource.has_type_iff.1 typed⟩
  have own : scope.Bases sources position (scope.structName (source.label position))
      source.ownType := ⟨source, located, rfl, FieldSource.has_type_iff.2 rfl⟩
  rw [settled]
  constructor
  · intro final
    cases final with
    | own bases known =>
        obtain ⟨rfl, rfl⟩ := alone bases
        rw [if_neg known]
    | adopted bases unknown lending known lowest =>
        obtain ⟨rfl, rfl⟩ := alone bases
        have first := known_type_eq_some_iff.2 ⟨_, lending, known, lowest⟩
        rw [if_pos unknown, first, Option.getD_some]
    | unsettled bases nowhere =>
        obtain ⟨rfl, rfl⟩ := alone bases
        rw [known_type_eq_none_iff.2 nowhere, Option.getD_none, ite_self]
  · intro becomes
    subst becomes
    by_cases unknown : source.ownType.scalar = .unknown
    · rw [if_pos unknown]
      cases first : knownType? ((scope.nameSources 0 sources).map NamedSource.typed)
          (scope.structName (source.label position)) with
      | none => exact .unsettled own (known_type_eq_none_iff.1 first)
      | some type =>
          have ⟨place, lending, known, lowest⟩ := known_type_eq_some_iff.1 first
          exact .adopted own unknown lending known lowest
    · rw [if_neg unknown]
      exact .own own unknown

end Scope

theorem type_conflict_eq_some_iff {fields : List Field} {conflict : String × TypeRef × TypeRef} :
    typeConflict? fields = some conflict ↔
      ∃ place first second, FirstConflict fields place first second ∧
        (second.name, first.type, second.type) = conflict := by
  rw [type_conflict_eq, find_some_eq_some_iff_lowest]
  constructor
  · rintro ⟨place, second, located, yields, nothing⟩
    obtain ⟨first, leading, differ, same⟩ := conflict_in_eq_some_iff.1 yields
    refine ⟨place, first, second, ⟨located, leading, differ, ?_⟩, same⟩
    intro earlier less field leader found led
    exact conflict_in_eq_none_iff.1 (nothing earlier less field found) leader led
  · rintro ⟨place, first, second, ⟨located, leading, differ, lowest⟩, same⟩
    refine ⟨place, second, located, conflict_in_eq_some_iff.2 ⟨first, leading, differ, same⟩, ?_⟩
    intro earlier less field found
    exact conflict_in_eq_none_iff.2 fun leader led => lowest earlier less field leader found led

/-- The fields of a row stand in the order of its sources and have their final types. The row is
made of them exactly if those of one name have one type, and otherwise its error tells the first
conflict among them. -/
theorem row_outcome (scope : Scope) (name modelPath : String) (sources : List FieldSource) :
    (scope.rowFields name sources).length = sources.length ∧
    (∀ position field, (scope.rowFields name sources)[position]? = some field →
      ∃ source, sources[position]? = some source ∧ field.column = some source.column ∧
        ∀ type, FinalType scope sources position type ↔ field.type = type) ∧
    ((∃ struct, scope.row name modelPath sources = .ok struct) ↔
      FieldsAgree (scope.rowFields name sources)) ∧
    (∀ struct, scope.row name modelPath sources = .ok struct →
      struct.name = name ∧ struct.fields = scope.rowFields name sources) ∧
    (∀ error, scope.row name modelPath sources = .error error ↔
      ∃ place first second, FirstConflict (scope.rowFields name sources) place first second ∧
        error = .incompatibleFieldTypes name second.name first.type second.type) := by
  refine ⟨scope.row_fields_length name sources, ?_, ?_, ?_, ?_⟩
  · intro position field place
    rw [Scope.row_fields_at] at place
    obtain ⟨source, located, rfl⟩ := Option.map_eq_some_iff.1 place
    exact ⟨source, located, rfl, Scope.final_type_iff located name⟩
  · rw [← type_conflict_none_iff]
    constructor
    · rintro ⟨struct, made⟩
      exact (Scope.row_ok made).1
    · intro free
      simp only [Scope.row, free]
      exact ⟨_, rfl⟩
  · intro struct made
    obtain ⟨_, rfl⟩ := Scope.row_ok made
    exact ⟨rfl, rfl⟩
  · intro error
    constructor
    · intro refused
      cases conflict : typeConflict? (scope.rowFields name sources) with
      | none => simp [Scope.row, conflict] at refused
      | some found =>
          obtain ⟨place, first, second, leads, rfl⟩ := type_conflict_eq_some_iff.1 conflict
          simp only [Scope.row, conflict, Except.error.injEq] at refused
          exact ⟨place, first, second, leads, refused.symm⟩
    · rintro ⟨place, first, second, leads, rfl⟩
      have conflict := type_conflict_eq_some_iff.2 ⟨place, first, second, leads, rfl⟩
      simp only [Scope.row, conflict]

/-- A review with its author as a whole row, two titles of which one has no type, another author
without a type, and a note that no source has a type for. -/
def reviewSources : List FieldSource := [
  { id := 0, column := { name := "author" }, type := { scalar := .uuid },
    embed := some { name := "Author", fields := [] } },
  { id := 1, column := { name := "title" }, type := { scalar := .unknown } },
  { id := 2, column := { name := "title" }, type := { scalar := .string, nonNull := true } },
  { id := 3, column := { name := "author" }, type := { scalar := .unknown } },
  { id := 4, column := { name := "note" }, type := { scalar := .unknown } }]

/-- A named parameter is not numbered, so that it meets the embedded author under its name. -/
def authorParameter : FieldSource where
  id := 5
  column := { name := "author", isNamedParam := true }
  type := { scalar := .uuid, nonNull := true }

theorem reviews_turn_out :
    (∃ struct, (Scope.ofRequest {} {}).row "Review" "db.Review" reviewSources = .ok struct ∧
      struct.shape = [
        ("Author", { scalar := .named "Author" }),
        ("Title", { scalar := .string, nonNull := true }),
        ("Title_2", { scalar := .string, nonNull := true }),
        ("Author_2", { scalar := .named "Author" }),
        ("Note", { scalar := .unknown })]) ∧
    FinalType (Scope.ofRequest {} {}) reviewSources 1 { scalar := .string, nonNull := true } ∧
    FinalType (Scope.ofRequest {} {}) reviewSources 3 { scalar := .named "Author" } ∧
    (Scope.ofRequest {} {}).row "Review" "db.Review" (reviewSources ++ [authorParameter]) =
      .error (.incompatibleFieldTypes "Review" "Author" { scalar := .named "Author" }
        { scalar := .uuid, nonNull := true }) := by
  have ⟨_, final, succeeds, made, _⟩ :=
    row_outcome (Scope.ofRequest {} {}) "Review" "db.Review" reviewSources
  have ⟨_, _, _, _, refused⟩ :=
    row_outcome (Scope.ofRequest {} {}) "Review" "db.Review" (reviewSources ++ [authorParameter])
  have shape : ((Scope.ofRequest {} {}).rowFields "Review" reviewSources).map
      (fun field => (field.name, field.type)) = [
        ("Author", { scalar := .named "Author" }),
        ("Title", { scalar := .string, nonNull := true }),
        ("Title_2", { scalar := .string, nonNull := true }),
        ("Author_2", { scalar := .named "Author" }),
        ("Note", { scalar := .unknown })] := by
    decide +kernel
  have typed (position : Nat) (type : TypeRef)
      (stands : ((Scope.ofRequest {} {}).rowFields "Review" reviewSources)[position]?.map
        (fun field => field.type) = some type) :
      FinalType (Scope.ofRequest {} {}) reviewSources position type := by
    have ⟨field, located, same⟩ := Option.map_eq_some_iff.1 stands
    have ⟨_, _, _, only⟩ := final position field located
    exact (only type).2 same
  refine ⟨?_, typed 1 _ (by decide +kernel), typed 3 _ (by decide +kernel), ?_⟩
  · have ⟨struct, reviewed⟩ := succeeds.2 (type_conflict_none_iff.1 (by decide +kernel))
    refine ⟨struct, reviewed, ?_⟩
    rw [Struct.shape, (made struct reviewed).2, shape]
  · have conflict : typeConflict? ((Scope.ofRequest {} {}).rowFields "Review"
        (reviewSources ++ [authorParameter])) =
          some ("Author", { scalar := .named "Author" }, { scalar := .uuid, nonNull := true }) := by
      decide +kernel
    have ⟨place, first, second, leads, same⟩ := type_conflict_eq_some_iff.1 conflict
    simp only [Prod.mk.injEq] at same
    have ⟨name, firstType, secondType⟩ := same
    apply (refused _).2
    exact ⟨place, first, second, leads, by rw [name, firstType, secondType]⟩

end GraphSchema
