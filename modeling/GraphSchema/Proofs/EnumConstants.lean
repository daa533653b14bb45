import GraphSchema.Proofs.Generation
import GraphSchema.Proofs.PascalNames

/-!
The constants of an enum, one for each value. A value is labelled by what of it may stand in a name,
or by its position if that is nothing or a label before it. The label by position is not looked up
among the others, and the name of a constant is spelled in PascalCase only after that. So two
constants have one name if two labels that values keep are spelled alike, or if a kept label is
spelled like the position of a value that lost its own, and the main result says that there is no
other way.
-/

namespace GraphSchema

/-- The label of a value at a position, where `taken` holds the labels before it. -/
def labelBehind (taken : List String) (position : Nat) (value : String) : String :=
  if Naming.valueLabel value = "" ∨ Naming.valueLabel value ∈ taken then
    "value_" ++ position.repr
  else Naming.valueLabel value

theorem label_behind_congr {taken other : List String} (same : taken.Perm other) (position : Nat)
    (value : String) : labelBehind taken position value = labelBehind other position value := by
  simp only [labelBehind, same.mem_iff]

theorem value_labels_cons (position : Nat) (taken : List String) (value : String)
    (values : List String) :
    valueLabels position taken (value :: values) =
      labelBehind taken position value ::
        valueLabels (position + 1) (labelBehind taken position value :: taken) values := by
  simp only [valueLabels, labelBehind, Bool.or_eq_true, decide_eq_true_eq, List.contains_iff_mem]

theorem value_labels_length (position : Nat) (taken values : List String) :
    (valueLabels position taken values).length = values.length := by
  induction values generalizing position taken with
  | nil => rfl
  | cons value values ih => rw [value_labels_cons, List.length_cons, ih, List.length_cons]

theorem value_labels_at (position : Nat) (taken values : List String) (place : Nat) :
    (valueLabels position taken values)[place]? =
      values[place]?.map (labelBehind ((valueLabels position taken values).take place ++ taken)
        (position + place)) := by
  induction values generalizing position taken place with
  | nil => rfl
  | cons value values ih =>
      rw [value_labels_cons]
      cases place with
      | zero => rfl
      | succ place =>
          rw [List.getElem?_cons_succ, List.getElem?_cons_succ, ih, Nat.add_right_comm,
            Nat.add_assoc, List.take_succ_cons, List.cons_append]
          congr 1
          funext later
          exact label_behind_congr List.perm_middle _ later

theorem value_labels_of_distinct {position : Nat} {taken values : List String}
    (nonempty : ∀ value ∈ values, Naming.valueLabel value ≠ "")
    (distinct : (values.map Naming.valueLabel).Nodup)
    (free : ∀ label ∈ taken, label ∉ values.map Naming.valueLabel) :
    valueLabels position taken values = values.map Naming.valueLabel := by
  induction values generalizing position taken with
  | nil => rfl
  | cons value values ih =>
      obtain ⟨own, later⟩ := List.forall_mem_cons.1 nonempty
      rw [List.map_cons, List.nodup_cons] at distinct
      obtain ⟨ownNew, laterDistinct⟩ := distinct
      have untaken : Naming.valueLabel value ∉ taken := by
        intro member
        exact free _ member List.mem_cons_self
      have label : labelBehind taken position value = Naming.valueLabel value := by
        rw [labelBehind, if_neg]
        exact not_or.2 ⟨own, untaken⟩
      rw [value_labels_cons, label, List.map_cons, ih later laterDistinct]
      intro other member
      rcases List.mem_cons.1 member with rfl | among
      · exact ownNew
      · exact List.not_mem_of_not_mem_cons (free other among)

/-- The value at a position is labelled by itself. -/
structure KeepsLabel (values : List String) (position : Nat) (label : String) : Prop where
  own : values[position]?.map Naming.valueLabel = some label
  nonempty : label ≠ ""
  new : label ∉ (valueLabels 0 [] values).take position

/-- The value at a position is labelled by its position. -/
def LosesLabel (values : List String) (position : Nat) : Prop :=
  position < values.length ∧ ∀ label, ¬KeepsLabel values position label

section Labels

variable {values : List String} {position : Nat} {label : String}

theorem KeepsLabel.label_at (keeps : KeepsLabel values position label) :
    (valueLabels 0 [] values)[position]? = some label := by
  obtain ⟨value, located, rfl⟩ := Option.map_eq_some_iff.1 keeps.own
  rw [value_labels_at, located, Option.map_some, List.append_nil, labelBehind, if_neg]
  rintro (empty | taken)
  · exact keeps.nonempty empty
  · exact keeps.new taken

theorem LosesLabel.label_at (loses : LosesLabel values position) :
    (valueLabels 0 [] values)[position]? = some ("value_" ++ position.repr) := by
  obtain ⟨bound, keepsNone⟩ := loses
  have located := List.getElem?_eq_getElem bound
  rw [value_labels_at, located, Option.map_some, List.append_nil, labelBehind, Nat.zero_add,
    if_pos]
  by_contra free
  rw [not_or] at free
  exact keepsNone _ ⟨by rw [located, Option.map_some], free.1, free.2⟩

theorem label_at_cases (located : (valueLabels 0 [] values)[position]? = some label) :
    KeepsLabel values position label ∨
      LosesLabel values position ∧ label = "value_" ++ position.repr := by
  by_cases keeps : ∃ own, KeepsLabel values position own
  · obtain ⟨own, keeps⟩ := keeps
    obtain rfl := Option.some.inj (keeps.label_at.symm.trans located)
    exact Or.inl keeps
  · obtain ⟨bound, _⟩ := List.getElem?_eq_some_iff.1 located
    rw [value_labels_length] at bound
    have loses : LosesLabel values position := ⟨bound, not_exists.1 keeps⟩
    exact Or.inr ⟨loses, Option.some.inj (located.symm.trans loses.label_at)⟩

end Labels

theorem nodup_map_iff_places {Item : Type} {name : Item → String} {items : List Item} :
    (items.map name).Nodup ↔
      ∀ (left right : Nat) (first second : Item), items[left]? = some first →
        items[right]? = some second → name first = name second → left = right := by
  constructor
  · intro distinct left right first second leftAt rightAt same
    obtain ⟨bound, _⟩ := List.getElem?_eq_some_iff.1 leftAt
    have bound : left < (items.map name).length := by rwa [List.length_map]
    apply (List.getElem?_inj bound distinct).1
    rw [List.getElem?_map, List.getElem?_map, leftAt, rightAt, Option.map_some, Option.map_some,
      same]
  · intro apart
    rw [List.nodup_iff_getElem?_ne_getElem?]
    intro left right less bound same
    rw [List.length_map] at bound
    have leftAt := List.getElem?_eq_getElem (Nat.lt_trans less bound)
    have rightAt := List.getElem?_eq_getElem bound
    rw [List.getElem?_map, List.getElem?_map, leftAt, rightAt, Option.map_some, Option.map_some,
      Option.some.injEq] at same
    exact absurd (apart left right _ _ leftAt rightAt same) (Nat.ne_of_lt less)

theorem numbered_values_differ {left right : Nat}
    (same : Naming.pascalCase ("value_" ++ left.repr) =
      Naming.pascalCase ("value_" ++ right.repr)) : left = right := by
  rw [Naming.pascal_case_of_numbered_value, Naming.pascal_case_of_numbered_value] at same
  have chars := congrArg String.toList same
  rw [String.toList_append, String.toList_append] at chars
  exact Text.repr_chars_inj (List.append_cancel_left chars)

/-- Labels are spelled apart unless a kept one is spelled like another kept one or like the position
of a value that lost its own. -/
theorem labels_spelled_apart_iff (values : List String) :
    ((valueLabels 0 [] values).map Naming.pascalCase).Nodup ↔
      (∀ left right first second, KeepsLabel values left first → KeepsLabel values right second →
        Naming.pascalCase first = Naming.pascalCase second → left = right) ∧
      ∀ kept lost label, KeepsLabel values kept label → LosesLabel values lost →
        Naming.pascalCase label ≠ "Value" ++ lost.repr := by
  rw [nodup_map_iff_places]
  constructor
  · intro apart
    constructor
    · intro left right first second leftKeeps rightKeeps
      exact apart left right first second leftKeeps.label_at rightKeeps.label_at
    · intro kept lost label keeps loses same
      rw [← Naming.pascal_case_of_numbered_value] at same
      obtain rfl := apart kept lost label _ keeps.label_at loses.label_at same
      exact loses.2 label keeps
  · rintro ⟨keptApart, lostApart⟩ left right first second leftAt rightAt same
    rcases label_at_cases leftAt with leftKeeps | ⟨leftLoses, rfl⟩
    · rcases label_at_cases rightAt with rightKeeps | ⟨rightLoses, rfl⟩
      · exact keptApart left right first second leftKeeps rightKeeps same
      · rw [Naming.pascal_case_of_numbered_value] at same
        exact absurd same (lostApart left right first leftKeeps rightLoses)
    · rcases label_at_cases rightAt with rightKeeps | ⟨_, rfl⟩
      · rw [Naming.pascal_case_of_numbered_value] at same
        exact absurd same.symm (lostApart right left second rightKeeps leftLoses)
      · exact numbered_values_differ same

namespace Scope

variable {scope : Scope} {schema : Schema} {source : CatalogEnum}

theorem enum_type_declared (schemaMember : schema ∈ scope.catalog.userSchemas)
    (member : source ∈ schema.enums) : scope.enumType schema source ∈ scope.enums := by
  rw [enums, (Text.perm_sortBy EnumType.name scope.catalogEnums).mem_iff]
  exact List.mem_flatMap.2 ⟨schema, schemaMember, List.mem_map_of_mem member⟩

theorem enum_constant_values (scope : Scope) (schema : Schema) (source : CatalogEnum) :
    (scope.enumType schema source).constants.map EnumConstant.value = source.values := by
  have lengths := value_labels_length 0 [] source.values
  rw [enumType, List.map_map]
  exact List.map_fst_zip (Nat.le_of_eq lengths.symm)

theorem enum_constant_names (scope : Scope) (schema : Schema) (source : CatalogEnum) :
    (scope.enumType schema source).constants.map EnumConstant.name =
      (valueLabels 0 [] source.values).map fun label =>
        scope.structName (scope.qualify schema.name source.name ++ "_" ++ label) := by
  have lengths := value_labels_length 0 [] source.values
  have labels : (source.values.zip (valueLabels 0 [] source.values)).map Prod.snd =
      valueLabels 0 [] source.values := List.map_snd_zip (Nat.le_of_eq lengths)
  rw [enumType, List.map_map, ← congrArg (List.map _) labels, List.map_map]
  rfl

/-- The constants of an enum of the catalog are one for each of its values, which they keep. Without
renames their names are distinct if and only if the labels of the values are spelled apart. -/
theorem enum_constants_distinct_iff (scope : Scope)
    (schemaMember : schema ∈ scope.catalog.userSchemas) (member : source ∈ schema.enums)
    (unrenamed : ∀ name, scope.options.rename.replacement? name = none) :
    scope.enumType schema source ∈ scope.enums ∧
    (scope.enumType schema source).constants.map EnumConstant.value = source.values ∧
    (∀ constant ∈ (scope.enumType schema source).constants,
      constant.typeName = (scope.enumType schema source).name) ∧
    (((scope.enumType schema source).constants.map EnumConstant.name).Nodup ↔
      (∀ left right first second, KeepsLabel source.values left first →
        KeepsLabel source.values right second →
          Naming.pascalCase first = Naming.pascalCase second → left = right) ∧
      ∀ kept lost label, KeepsLabel source.values kept label → LosesLabel source.values lost →
        Naming.pascalCase label ≠ "Value" ++ lost.repr) ∧
    ((∀ value ∈ source.values, Naming.valueLabel value ≠ "") →
      (source.values.map fun value => Naming.pascalCase (Naming.valueLabel value)).Nodup →
        ((scope.enumType schema source).constants.map EnumConstant.name).Nodup) := by
  have names : ((scope.enumType schema source).constants.map EnumConstant.name).Nodup ↔
      ((valueLabels 0 [] source.values).map Naming.pascalCase).Nodup := by
    have spelled : ∀ label,
        scope.structName (scope.qualify schema.name source.name ++ "_" ++ label) =
          Naming.pascalCase (scope.qualify schema.name source.name ++ "_" ++ label) := by
      intro label
      rw [structName, Naming.structName, unrenamed, Option.getD_none]
    rw [enum_constant_names, nodup_map_iff_places, nodup_map_iff_places]
    simp only [spelled, Naming.pascal_case_behind_iff]
  rw [names]
  refine ⟨enum_type_declared schemaMember member, scope.enum_constant_values schema source, ?_,
    labels_spelled_apart_iff source.values, ?_⟩
  · intro constant among
    obtain ⟨_, _, rfl⟩ := List.mem_map.1 among
    rfl
  · intro nonempty distinct
    have composed : source.values.map (fun value => Naming.pascalCase (Naming.valueLabel value)) =
        (source.values.map Naming.valueLabel).map Naming.pascalCase := by
      rw [List.map_map]
      rfl
    rw [composed] at distinct
    rwa [value_labels_of_distinct nonempty (List.Nodup.of_map _ distinct) (by simp)]

def tickets : Request where
  catalog := {
    defaultSchema := "public"
    schemas := [{
      name := "public"
      enums := [{ name := "status", values := ["in-progress", "in_progress", "!!", "done"] }] }] }

theorem ticket_states_are_distinct :
    ∃ schema ∈ tickets.catalog.userSchemas, ∃ source ∈ schema.enums,
      ((ofRequest tickets { package := "db" }).enumType schema source).constants.map
        (fun constant => (constant.name, constant.value)) =
          [("StatusInProgress", "in-progress"), ("StatusValue1", "in_progress"),
            ("StatusValue2", "!!"), ("StatusDone", "done")] ∧
      ∀ kept lost label, KeepsLabel source.values kept label → LosesLabel source.values lost →
        Naming.pascalCase label ≠ "Value" ++ lost.repr := by
  obtain ⟨schema, schemaMember, source, member, constants⟩ :
      ∃ schema ∈ tickets.catalog.userSchemas, ∃ source ∈ schema.enums,
        ((ofRequest tickets { package := "db" }).enumType schema source).constants.map
          (fun constant => (constant.name, constant.value)) =
            [("StatusInProgress", "in-progress"), ("StatusValue1", "in_progress"),
              ("StatusValue2", "!!"), ("StatusDone", "done")] := by
    decide +kernel
  refine ⟨schema, schemaMember, source, member, constants, ?_⟩
  have names : ((ofRequest tickets { package := "db" }).enumType schema source).constants.map
      EnumConstant.name = ["StatusInProgress", "StatusValue1", "StatusValue2", "StatusDone"] := by
    have firsts := congrArg (List.map Prod.fst) constants
    rwa [List.map_map] at firsts
  obtain ⟨_, _, _, distinct, _⟩ :=
    (ofRequest tickets { package := "db" }).enum_constants_distinct_iff schemaMember member
      fun _ => rfl
  exact (distinct.1 (by rw [names]; decide)).2

def numberedTickets : Request where
  catalog := {
    defaultSchema := "public"
    schemas := [{
      name := "public"
      enums := [{ name := "status", values := ["value-1", "value_1"] }] }] }

/-- The second value loses its label to the first and is labelled by its position, which is that
very label again. -/
theorem fallback_repeats_a_constant :
    (∀ name, (ofRequest numberedTickets { package := "db" }).options.rename.replacement? name =
        none) ∧
      ∃ schema ∈ numberedTickets.catalog.userSchemas, ∃ source ∈ schema.enums,
        source.values.Nodup ∧
          ((ofRequest numberedTickets { package := "db" }).enumType schema source).constants.map
            EnumConstant.name = ["StatusValue1", "StatusValue1"] ∧
          ¬(((ofRequest numberedTickets { package := "db" }).enumType schema
            source).constants.map EnumConstant.name).Nodup := by
  refine ⟨fun _ => rfl, ?_⟩
  decide +kernel

end Scope

end GraphSchema
