import GraphSchema.Assembly.Row
import Mathlib.Data.List.Nodup

/-!
What the passes over a row come to. One settles the types of the fields from left to right and reads
types that it has settled itself; each field still gets what it would get if all were settled at
once. The other compares a field with the types that it has recorded; it finds what a comparison
with the first field of the name finds.
-/

namespace GraphSchema

/-- The type of a source's field if all are settled at once: its own, or, where that is unknown, the
first known one of its base name. -/
def NamedSource.finalType (sources : List NamedSource) (named : NamedSource) : TypeRef :=
  if named.source.ownType.isUnknown then
    (knownType? (sources.map typed) named.base).getD named.source.ownType
  else named.source.ownType

section Settling

variable {settled rest : List (String × TypeRef)} {base : String} {type : TypeRef}

theorem known_type_append (left right : List (String × TypeRef)) (base : String) :
    knownType? (left ++ right) base = (knownType? left base).or (knownType? right base) :=
  List.findSome?_append

theorem known_type_past_unknown (unknown : type.isUnknown = true) (base other : String)
    (rest : List (String × TypeRef)) :
    knownType? ((base, type) :: rest) other = knownType? rest other := by
  simp [knownType?, unknown]

theorem known_type_past_other {other : String} (differ : base ≠ other) (type : TypeRef)
    (rest : List (String × TypeRef)) :
    knownType? ((base, type) :: rest) other = knownType? rest other := by
  simp [knownType?, differ]

theorem known_type_known (found : knownType? settled base = some type) :
    type.isUnknown = false := by
  obtain ⟨entry, _, selected⟩ := List.exists_of_findSome?_eq_some found
  simp only [Option.ite_none_right_eq_some, Bool.and_eq_true, Bool.not_eq_true'] at selected
  rw [← Option.some.inj selected.2]
  exact selected.1.2

/-- Settling one type in its place changes the first known type of no base name. -/
theorem known_type_of_settled (unknown : type.isUnknown = true)
    (settled rest : List (String × TypeRef)) (base other : String) :
    knownType? (settled ++ (base, (knownType? (settled ++ rest) base).getD type) :: rest) other =
      knownType? (settled ++ rest) other := by
  cases found : knownType? (settled ++ rest) base with
  | none =>
      rw [Option.getD_none, known_type_append, known_type_past_unknown unknown, known_type_append]
  | some known =>
      rw [Option.getD_some, known_type_append, known_type_append]
      by_cases own : base = other
      · subst own
        have here : knownType? ((base, known) :: rest) base = some known := by
          simp [knownType?, known_type_known found]
        rw [known_type_append] at found
        rw [here, found]
        cases before : knownType? settled base with
        | none => rfl
        | some first =>
            rw [before, Option.some_or] at found
            exact found
      · rw [known_type_past_other own]

/-- The pass from left to right settles each type as if all were settled at once. -/
theorem settle_types_eq {known : String → Option TypeRef}
    (agrees : ∀ base, knownType? (settled ++ rest) base = known base) :
    settleTypes settled rest = rest.map fun entry =>
      if entry.2.isUnknown then (known entry.1).getD entry.2 else entry.2 := by
  induction rest generalizing settled with
  | nil => rfl
  | cons entry rest ih =>
      obtain ⟨base, type⟩ := entry
      rw [settleTypes, List.map_cons]
      cases unknown : type.isUnknown with
      | false =>
          have agreesBehind (other : String) :
              knownType? (settled ++ [(base, type)] ++ rest) other = known other := by
            rw [List.append_assoc, List.singleton_append, agrees]
          simp [ih agreesBehind]
      | true =>
          -- The type itself is unknown, so leaving it out of the search changes nothing.
          have without (other : String) : knownType? (settled ++ rest) other = known other := by
            rw [← agrees, known_type_append, known_type_append, known_type_past_unknown unknown]
          have agreesBehind (other : String) :
              knownType? (settled ++ [(base, (known base).getD type)] ++ rest) other =
                known other := by
            rw [List.append_assoc, List.singleton_append, ← without base,
              known_type_of_settled unknown, without]
          simp [without, ih agreesBehind]

end Settling

theorem settled_types_eq (sources : List NamedSource) :
    settleTypes [] (sources.map NamedSource.typed) =
      sources.map (NamedSource.finalType sources) := by
  rw [settle_types_eq fun _ => rfl, List.map_map]
  rfl

theorem Scope.row_fields_settled (scope : Scope) (name : String) (sources : List FieldSource) :
    scope.rowFields name sources =
      ((scope.nameSources 0 sources).zip (fieldNumbers [] [] (scope.nameSources 0 sources))).map
        fun (named, number) =>
          scope.rowField name named number (named.finalType (scope.nameSources 0 sources)) := by
  rw [rowFields, settled_types_eq, ← List.map_prod_left_eq_zip, List.zip_map_left, List.map_map]
  rfl

def Field.conflictIn (fields : List Field) (field : Field) : Option (String × TypeRef × TypeRef) :=
  match fields.find? (·.name = field.name) with
  | some first =>
      if first.type = field.type then none else some (field.name, first.type, field.type)
  | none => none

theorem conflict_in_eq_some_iff {fields : List Field} {field : Field}
    {conflict : String × TypeRef × TypeRef} :
    field.conflictIn fields = some conflict ↔
      ∃ first, fields.find? (·.name = field.name) = some first ∧ first.type ≠ field.type ∧
        (field.name, first.type, field.type) = conflict := by
  unfold Field.conflictIn
  cases fields.find? (·.name = field.name) <;> simp

theorem conflict_in_eq_none_iff {fields : List Field} {field : Field} :
    field.conflictIn fields = none ↔
      ∀ first, fields.find? (·.name = field.name) = some first → first.type = field.type := by
  unfold Field.conflictIn
  cases fields.find? (·.name = field.name) <;> simp

/-- What the comparison has recorded when it has passed some fields: the first type of each name. -/
def FirstTypes (passed : List Field) (firsts : List (String × TypeRef)) : Prop :=
  ∀ name, firsts.lookup name = (passed.find? (·.name = name)).map (·.type)

section Comparing

variable {firsts : List (String × TypeRef)} {passed rest : List Field} {field first : Field}

theorem FirstTypes.step_seen (records : FirstTypes passed firsts)
    (found : passed.find? (·.name = field.name) = some first) :
    FirstTypes (passed ++ [field]) firsts := by
  intro name
  rw [records, List.find?_append]
  by_cases own : field.name = name
  · subst own
    rw [found, Option.some_or]
  · simp [own]

theorem FirstTypes.step_new (records : FirstTypes passed firsts)
    (found : passed.find? (·.name = field.name) = none) :
    FirstTypes (passed ++ [field]) ((field.name, field.type) :: firsts) := by
  intro name
  rw [List.lookup_cons, records, List.find?_append]
  by_cases own : name = field.name
  · subst own
    simp [found]
  · have other : (name == field.name) = false := beq_eq_false_iff_ne.2 own
    simp [other, Ne.symm own]

theorem conflict_after_eq (records : FirstTypes passed firsts) :
    conflictAfter firsts rest = rest.findSome? (Field.conflictIn (passed ++ rest)) := by
  induction rest generalizing firsts passed with
  | nil => rfl
  | cons field rest ih =>
      have split : passed ++ field :: rest = passed ++ [field] ++ rest := by simp
      rw [List.findSome?_cons]
      cases found : passed.find? (·.name = field.name) with
      | some first =>
          have leading : (passed ++ field :: rest).find? (·.name = field.name) = some first := by
            rw [List.find?_append, found, Option.some_or]
          by_cases same : first.type = field.type
          · have agree : field.conflictIn (passed ++ field :: rest) = none := by
              simp [Field.conflictIn, leading, same]
            rw [agree, split, ← ih (records.step_seen found)]
            simp [conflictAfter, records field.name, found, same]
          · have differ : field.conflictIn (passed ++ field :: rest) =
                some (field.name, first.type, field.type) := by
              simp [Field.conflictIn, leading, same]
            rw [differ]
            simp [conflictAfter, records field.name, found, same]
      | none =>
          have itself : field.conflictIn (passed ++ field :: rest) = none := by
            simp [Field.conflictIn, List.find?_append, found]
          rw [itself, split, ← ih (records.step_new found)]
          simp [conflictAfter, records field.name, found]

end Comparing

theorem type_conflict_eq (fields : List Field) :
    typeConflict? fields = fields.findSome? (Field.conflictIn fields) := by
  have nothing : FirstTypes [] [] := fun _ => rfl
  exact conflict_after_eq nothing

theorem type_conflict_none_of_distinct {fields : List Field}
    (names : (fields.map fun field => field.name).Nodup) : typeConflict? fields = none := by
  rw [type_conflict_eq]
  refine List.findSome?_eq_none_iff.2 fun field member => conflict_in_eq_none_iff.2 ?_
  intro first found
  have sameName : first.name = field.name := by simpa using List.find?_some found
  rw [List.inj_on_of_nodup_map names (List.mem_of_find?_eq_some found) member sameName]

end GraphSchema
