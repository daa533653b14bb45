import GraphSchema.Options.Error
import GraphSchema.Text.Segments

/-!
Exclude rules hide fields of types. An entry is a type name and a field name with one full stop
between them, and neither may be empty.
-/

namespace GraphSchema

structure ExcludeRules where
  hidden : List (String × String) := []

namespace ExcludeRules

def readEntry (entry : String) : Except OptionsError (String × String) :=
  match Text.fields '.' entry with
  | [typeName, field] =>
      if typeName = "" || field = "" then .error (.invalidExclude entry)
      else .ok (typeName, field)
  | _ => .error (.invalidExclude entry)

def parse (entries : List String) : Except OptionsError ExcludeRules := do
  return { hidden := ← entries.mapM readEntry }

def isExcluded (rules : ExcludeRules) (typeName field : String) : Bool :=
  rules.hidden.contains (typeName, field)

end ExcludeRules

end GraphSchema
