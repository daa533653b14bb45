import GraphSchema.Options.Document
import GraphSchema.Format.Datum

/-!
Options written as documents. What is empty or absent is left out, apart from the members that a
reader always finds: the package, the output directory and the switches.
-/

namespace GraphSchema

open Datum

/-- A member, as a list that is empty where the member is left out. -/
abbrev Member := List (Option String × Datum)

namespace Datum

def always (name : String) (value : Datum) : Member := [(some name, value)]

def textUnlessEmpty (name value : String) : Member :=
  if value = "" then [] else always name (ofText value)

def ifPresent {α : Type} (name : String) (write : α → Datum) : Option α → Member
  | none => []
  | some value => always name (write value)

def listUnlessEmpty {α : Type} (name : String) (write : α → Datum) : List α → Member
  | [] => []
  | items => always name (list (items.map write))

end Datum

def Override.toDatum (entry : Override) : Datum :=
  .record <|
    textUnlessEmpty "db_type" entry.dbType ++
    textUnlessEmpty "column" entry.column ++
    always "gql_type" (ofText entry.gqlType) ++
    ifPresent "nullable" ofFlag entry.nullable ++
    ifPresent "unsigned" ofFlag entry.unsigned

def DirectiveRule.toDatum (rule : DirectiveRule) : Datum :=
  .record <|
    always "model" (ofText rule.model) ++
    textUnlessEmpty "field" rule.field ++
    always "directive" (ofText rule.directive)

def Renames.member (renames : Renames) : Member :=
  match renames.entries with
  | [] => []
  | entries => always "rename" (.record (entries.map fun (key, value) => (some key, ofText value)))

def Options.toDatum (options : Options) : Datum :=
  .record <|
    always "package" (ofText options.package) ++
    always "out" (ofText options.out) ++
    listUnlessEmpty "overrides" Override.toDatum options.overrides ++
    options.rename.member ++
    always "emit_exact_table_names" (ofFlag options.emitExactTableNames) ++
    listUnlessEmpty "inflection_exclude_table_names" ofText options.inflectionExcludeTableNames ++
    ifPresent "query_parameter_limit" (ofInteger ·.toInt) options.queryParameterLimit ++
    always "omit_sqlc_version" (ofFlag options.omitToolVersion) ++
    always "omit_unused_structs" (ofFlag options.omitUnusedStructs) ++
    ifPresent "default_schema" ofText options.defaultSchema ++
    always "gen_common_parts" (ofFlag options.genCommonParts) ++
    listUnlessEmpty "exclude" ofText options.exclude ++
    listUnlessEmpty "directives" DirectiveRule.toDatum options.directives

def GlobalOptions.toDatum (options : GlobalOptions) : Datum :=
  .record <|
    listUnlessEmpty "overrides" Override.toDatum options.overrides ++ options.rename.member

end GraphSchema
