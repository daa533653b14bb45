import GraphSchema.Text.Blank
import GraphSchema.Text.Segments

/-!
Directive rules attach directives to a type or to one of its fields. All rules that match a lookup
contribute, in declaration order, with one space between them. Lookups take no account of ASCII
case.
-/

namespace GraphSchema

/-- A directive for a type, or for the field that it names. -/
structure DirectiveRule where
  model : String := ""
  field : String := ""
  directive : String := ""
  deriving DecidableEq

namespace DirectiveRule

def appliesTo (rule : DirectiveRule) (typeName field : String) : Bool :=
  Text.sameIgnoringCase rule.model typeName &&
    (rule.field = "" || Text.sameIgnoringCase rule.field field)

/-- The directive without white margins, behind one `@`. -/
def text (rule : DirectiveRule) : String :=
  let directive := Text.trimmed rule.directive
  if Text.startsWith directive "@" then directive else "@" ++ directive

end DirectiveRule

structure DirectiveRules where
  rules : List DirectiveRule := []

/-- The directives for a field of a type, or for the type itself when the field is empty. -/
def DirectiveRules.lookup (rules : DirectiveRules) (typeName field : String) : Option String :=
  match (rules.rules.filter (·.appliesTo typeName field)).map DirectiveRule.text with
  | [] => none
  | texts => some (" ".intercalate texts)

def joinDirectives : Option String → Option String → Option String
  | some current, some extra => some (current ++ " " ++ extra)
  | current, none => current
  | none, extra => extra

theorem join_directives_none (current : Option String) : joinDirectives current none = current := by
  cases current <;> rfl

theorem none_join_directives (extra : Option String) : joinDirectives none extra = extra := by
  cases extra <;> rfl

theorem join_directives_assoc (first second third : Option String) :
    joinDirectives (joinDirectives first second) third =
      joinDirectives first (joinDirectives second third) := by
  cases first <;> cases second <;> cases third <;> simp [joinDirectives, String.append_assoc]

end GraphSchema
