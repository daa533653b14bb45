import GraphSchema.Format.Json
import GraphSchema.Format.Toml
import GraphSchema.Format.Yaml
import GraphSchema.Options.Resolve
import GraphSchema.Text.Blank

/-!
Options as documents. `toDatum` writes options as a record that leaves out what is empty or absent,
and `ofDatum?` reads them back; members with other names are skipped. The text of a document is read
by the notation that it is in, and a document without content gives the default options.
-/

namespace GraphSchema

open Datum

namespace Override

def layout : List Spellings :=
  [["db_type", "dbType"], ["column"], ["gql_type", "gqlType"], ["nullable"], ["unsigned"]]

def ofDatum? (positional : Positional) (datum : Datum) : Option Override := do
  match ← datum.members? positional layout with
  | [dbType, column, gqlType, nullable, unsigned] =>
      return {
        dbType := ← memberOr? "" text? dbType
        column := ← memberOr? "" text? column
        gqlType := ← memberOr? "" text? gqlType
        nullable := ← memberOr? none (optional? flag?) nullable
        unsigned := ← memberOr? none (optional? flag?) unsigned }
  | _ => none

end Override

namespace DirectiveRule

def layout : List Spellings := [["model", "type"], ["field"], ["directive"]]

def ofDatum? (positional : Positional) (datum : Datum) : Option DirectiveRule := do
  match ← datum.members? positional layout with
  | [model, field, directive] =>
      return {
        model := ← memberOr? "" text? model
        field := ← memberOr? "" text? field
        directive := ← memberOr? "" text? directive }
  | _ => none

end DirectiveRule

def Renames.pair? (entry : Option String × Datum) : Option (String × String) := do
  let name ← entry.1
  let replacement ← entry.2.text?
  return (name, replacement)

/-- Reads replacements; of two for one name the later one holds. -/
def Renames.ofDatum? : Datum → Option Renames
  | .record entries => (entries.mapM pair?).map ofList
  | .leaf value => if value.isBlank then some empty else none
  | .list _ => none

namespace Options

def layout : List Spellings :=
  [["package"], ["out"], ["overrides"], ["rename"], ["emit_exact_table_names"],
    ["inflection_exclude_table_names"], ["query_parameter_limit"], ["omit_sqlc_version"],
    ["omit_unused_structs"], ["default_schema"], ["gen_common_parts"], ["exclude"], ["directives"]]

def ofDatum? (positional : Positional) (datum : Datum) : Option Options := do
  match ← datum.members? positional layout with
  | [package, out, overrides, rename, emitExactTableNames, inflectionExcludeTableNames,
      queryParameterLimit, omitToolVersion, omitUnusedStructs, defaultSchema, genCommonParts,
      exclude, directives] =>
      return {
        package := ← memberOr? "" text? package
        out := ← memberOr? "" text? out
        overrides := ← memberOr? [] (listOf? (Override.ofDatum? positional)) overrides
        rename := ← memberOr? .empty Renames.ofDatum? rename
        emitExactTableNames := ← memberOr? false flag? emitExactTableNames
        inflectionExcludeTableNames := ← memberOr? [] (listOf? text?) inflectionExcludeTableNames
        queryParameterLimit := ← memberOr? none (optional? int32?) queryParameterLimit
        omitToolVersion := ← memberOr? false flag? omitToolVersion
        omitUnusedStructs := ← memberOr? false flag? omitUnusedStructs
        defaultSchema := ← memberOr? none (optional? text?) defaultSchema
        genCommonParts := ← memberOr? false flag? genCommonParts
        exclude := ← memberOr? [] (listOf? text?) exclude
        directives := ← memberOr? [] (listOf? (DirectiveRule.ofDatum? positional)) directives }
  | _ => none

end Options

namespace GlobalOptions

def layout : List Spellings := [["overrides"], ["rename"]]

def ofDatum? (positional : Positional) (datum : Datum) : Option GlobalOptions := do
  match ← datum.members? positional layout with
  | [overrides, rename] =>
      return {
        overrides := ← memberOr? [] (listOf? (Override.ofDatum? positional)) overrides
        rename := ← memberOr? .empty Renames.ofDatum? rename }
  | _ => none

end GlobalOptions

structure DocumentKind (α : Type) where
  default : α
  ofDatum? : Positional → Datum → Option α

def Options.documents : DocumentKind Options := ⟨{}, Options.ofDatum?⟩

def GlobalOptions.documents : DocumentKind GlobalOptions := ⟨{}, GlobalOptions.ofDatum?⟩

/-- What reads a JSON text as a datum, if it is one. -/
abbrev JsonReader := List UInt8 → Option Datum

def FileFormat.read? (format : FileFormat) (content : String)
    (readJson? : JsonReader := Json.read?) : Option Datum :=
  match format with
  | json => readJson? (Text.utf8 content)
  | yaml => Yaml.read? content
  | toml => Toml.read? content

/-- How a list may stand for a record in a notation. -/
def FileFormat.positional : FileFormat → Positional
  | json => .bounded
  | yaml => .refused
  | toml => .unbounded

namespace DocumentKind

variable {α : Type}

def ofText (kind : DocumentKind α) (format : FileFormat) (content : String)
    (readJson? : JsonReader := Json.read?) : Except OptionsError α :=
  if (content.toList.all Text.isBlank) then .ok kind.default
  else
    match (format.read? content readJson?).bind (kind.ofDatum? format.positional) with
    | some options => .ok options
    | none => .error (.unreadable format)

def isAsciiBlank (byte : UInt8) : Bool := [0x20, 0x09, 0x0a, 0x0d, 0x0c].contains byte

def ofBytes (kind : DocumentKind α) (bytes : List UInt8)
    (readJson? : JsonReader := Json.read?) : Except OptionsError α :=
  if bytes.all isAsciiBlank then .ok kind.default
  else
    match (readJson? bytes).bind (kind.ofDatum? .bounded) with
    | some options => .ok options
    | none => .error (.unreadable .json)

/-- Reads the file at a path, whose bytes are absent when there is no such file. -/
def ofFile (kind : DocumentKind α) (path : String) (bytes : Option (List UInt8)) :
    Except OptionsError α := do
  let format ← FilePath.format path
  match bytes.bind Text.ofUtf8? with
  | some content => kind.ofText format content
  | none => throw .unreadableFile

end DocumentKind

/-- The resolved options of a request's two blocks; the generator's own block is read first. -/
def resolveBlocks (pluginOptions globalOptions : List UInt8) :
    Except OptionsError ResolvedOptions := do
  let own ← Options.documents.ofBytes pluginOptions
  let shared ← GlobalOptions.documents.ofBytes globalOptions
  resolve own shared

end GraphSchema
