import GraphSchema.Model.TypeRef
import GraphSchema.Options.Error

/-!
Why a generation fails.
-/

namespace GraphSchema

inductive GenerateError
  | options (error : OptionsError)
  /-- A struct has the name of an enum, or of its nullable wrapper. -/
  | nameConflict (name : String)
  | incompatibleFieldTypes (struct field : String) (first second : TypeRef)
  | duplicateStruct (name : String)
  deriving DecidableEq

def GenerateError.message : GenerateError → String
  | options error => "configuration error: " ++ error.message
  | nameConflict name => "struct name conflicts with enum name: " ++ name
  | incompatibleFieldTypes struct field first second =>
      "field " ++ field ++ " of " ++ struct ++ " has incompatible types: " ++ first.render ++
        ", " ++ second.render
  | duplicateStruct name =>
      "synthesized struct " ++ name ++ " conflicts with an existing struct of the same name"

end GraphSchema
