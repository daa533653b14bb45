import GraphSchema.Assembly.Scope
import GraphSchema.Model.Basic
import GraphSchema.Text.Sorting

/-!
The enum types of the catalog. Every value of an enum gets a constant of its own; a value whose
label is empty or taken is labelled by its position.
-/

namespace GraphSchema

/-- The labels of an enum's values from a position on, where `taken` holds the labels before. -/
def valueLabels (position : Nat) (taken : List String) : List String → List String
  | [] => []
  | value :: values =>
      let plain := Naming.valueLabel value
      let label :=
        if plain = "" || taken.contains plain then "value_" ++ position.repr else plain
      label :: valueLabels (position + 1) (label :: taken) values

namespace Scope

def enumType (scope : Scope) (schema : Schema) (source : CatalogEnum) : EnumType :=
  let qualified := scope.qualify schema.name source.name
  let name := scope.structName qualified
  { name
    comment := source.comment
    directive := scope.directives name ""
    constants := (source.values.zip (valueLabels 0 [] source.values)).map fun (value, label) =>
      { name := scope.structName (qualified ++ "_" ++ label), value, typeName := name } }

def catalogEnums (scope : Scope) : List EnumType :=
  scope.catalog.userSchemas.flatMap fun schema => schema.enums.map (scope.enumType schema)

def enums (scope : Scope) : List EnumType := Text.sortBy EnumType.name scope.catalogEnums

end Scope

end GraphSchema
