import GraphSchema.Proofs.BlankDocuments
import GraphSchema.Proofs.PaddedRecords

/-!
Options come back from the documents that they are written to. What a writer leaves out is what a
reader takes for a default, and members that no reader knows do not matter, at the top of a document
or inside an override or a directive rule.
-/

namespace GraphSchema

open Datum

namespace Override

variable {entries : Member} {entry : Override} {padded : Datum}

/-- Members are put in that have none of the names of an override's. -/
def Pads : Datum → Datum → Prop := PadsRecord layout fun _ _ _ => False

/-- The members of a record give the parts of an override. -/
structure GivenBy (entries : Member) (entry : Override) : Prop where
  texts : entries.all (·.1.isSome) = true
  dbType : Gives entries ["db_type", "dbType"] "" text? entry.dbType
  column : Gives entries ["column"] "" text? entry.column
  gqlType : Gives entries ["gql_type", "gqlType"] "" text? entry.gqlType
  nullable : Gives entries ["nullable"] none (optional? flag?) entry.nullable
  unsigned : Gives entries ["unsigned"] none (optional? flag?) entry.unsigned

theorem GivenBy.of_datum (given : GivenBy entries entry) (positional : Positional) :
    ofDatum? positional (.record entries) = some entry := by
  obtain ⟨_, dbType, readDbType⟩ := given.dbType
  obtain ⟨_, column, readColumn⟩ := given.column
  obtain ⟨_, gqlType, readGqlType⟩ := given.gqlType
  obtain ⟨_, nullable, readNullable⟩ := given.nullable
  obtain ⟨_, unsigned, readUnsigned⟩ := given.unsigned
  simp only [ofDatum?, members?, layout, given.texts, if_true, List.mapM_cons, List.mapM_nil,
    Option.pure_def, Option.bind_eq_bind, Option.bind_some, dbType, readDbType, column, readColumn,
    gqlType, readGqlType, nullable, readNullable, unsigned, readUnsigned]

theorem of_datum_of_pads (pads : Pads entry.toDatum padded) (positional : Positional) :
    ofDatum? positional padded = some entry := by
  obtain ⟨_, others, same, rfl, padded⟩ := pads
  obtain rfl := Datum.record.inj same
  have untouched : Datum → Datum → ¬False := fun _ _ => not_false
  refine GivenBy.of_datum ?_ positional
  refine {
    texts := padded.texts ?_
    dbType := padded.gives ?_ ?_ (text_unless_empty_writes "db_type" untouched _)
    column := padded.gives ?_ ?_ (text_unless_empty_writes "column" untouched _)
    gqlType := padded.gives ?_ ?_ (text_writes "gql_type" untouched _)
    nullable := padded.gives ?_ ?_ (if_present_writes "nullable" untouched optional_flag _)
    unsigned := padded.gives ?_ ?_ (if_present_writes "unsigned" untouched optional_flag _) } <;>
  simp [layout]

end Override

namespace DirectiveRule

variable {entries : Member} {rule : DirectiveRule} {padded : Datum}

def Pads : Datum → Datum → Prop := PadsRecord layout fun _ _ _ => False

structure GivenBy (entries : Member) (rule : DirectiveRule) : Prop where
  texts : entries.all (·.1.isSome) = true
  model : Gives entries ["model", "type"] "" text? rule.model
  field : Gives entries ["field"] "" text? rule.field
  directive : Gives entries ["directive"] "" text? rule.directive

theorem GivenBy.of_datum (given : GivenBy entries rule) (positional : Positional) :
    ofDatum? positional (.record entries) = some rule := by
  obtain ⟨_, model, readModel⟩ := given.model
  obtain ⟨_, field, readField⟩ := given.field
  obtain ⟨_, directive, readDirective⟩ := given.directive
  simp only [ofDatum?, members?, layout, given.texts, if_true, List.mapM_cons, List.mapM_nil,
    Option.pure_def, Option.bind_eq_bind, Option.bind_some, model, readModel, field, readField,
    directive, readDirective]

theorem of_datum_of_pads (pads : Pads rule.toDatum padded) (positional : Positional) :
    ofDatum? positional padded = some rule := by
  obtain ⟨_, others, same, rfl, padded⟩ := pads
  obtain rfl := Datum.record.inj same
  have untouched : Datum → Datum → ¬False := fun _ _ => not_false
  refine GivenBy.of_datum ?_ positional
  refine {
    texts := padded.texts ?_
    model := padded.gives ?_ ?_ (text_writes "model" untouched _)
    field := padded.gives ?_ ?_ (text_unless_empty_writes "field" untouched _)
    directive := padded.gives ?_ ?_ (text_writes "directive" untouched _) } <;>
  simp [layout]

end DirectiveRule

/-- The values of two members of an options record may be padded in their turn, each override and
each directive rule by itself. -/
def PadsWithin (name : String) (plain padded : Datum) : Prop :=
  (name = "overrides" ∧ PadsEach Override.Pads plain padded) ∨
    (name = "directives" ∧ PadsEach DirectiveRule.Pads plain padded)

theorem untouched_of_not_mem {name : String} (other : name ∉ ["overrides", "directives"])
    (plain padded : Datum) : ¬PadsWithin name plain padded := by
  rintro (⟨rfl, _⟩ | ⟨rfl, _⟩)
  · exact other List.mem_cons_self
  · exact other (List.mem_cons_of_mem _ List.mem_cons_self)

theorem overrides_write (positional : Positional) (overrides : List Override) :
    Writes PadsWithin [] (listOf? (Override.ofDatum? positional)) overrides
      (listUnlessEmpty "overrides" Override.toDatum overrides) := by
  apply list_unless_empty_writes
  · intro entry
    exact Override.of_datum_of_pads ⟨_, _, rfl, rfl, .refl _⟩ positional
  · rintro padded (⟨_, each⟩ | ⟨other, _⟩)
    · exact list_of_padded each fun _ _ pads => Override.of_datum_of_pads pads positional
    · exact absurd other (by decide)

theorem directives_write (positional : Positional) (rules : List DirectiveRule) :
    Writes PadsWithin [] (listOf? (DirectiveRule.ofDatum? positional)) rules
      (listUnlessEmpty "directives" DirectiveRule.toDatum rules) := by
  apply list_unless_empty_writes
  · intro rule
    exact DirectiveRule.of_datum_of_pads ⟨_, _, rfl, rfl, .refl _⟩ positional
  · rintro padded (⟨other, _⟩ | ⟨_, each⟩)
    · exact absurd other (by decide)
    · exact list_of_padded each fun _ _ pads => DirectiveRule.of_datum_of_pads pads positional

namespace Options

variable {entries : Member} {options : Options} {padded : Datum} {positional : Positional}

/-- Members are put in that have none of the names of the options', at the top or further inside. -/
def Pads : Datum → Datum → Prop := PadsRecord layout PadsWithin

structure GivenBy (entries : Member) (options : Options) (positional : Positional) : Prop where
  texts : entries.all (·.1.isSome) = true
  package : Gives entries ["package"] "" text? options.package
  out : Gives entries ["out"] "" text? options.out
  overrides : Gives entries ["overrides"] [] (listOf? (Override.ofDatum? positional))
    options.overrides
  rename : Gives entries ["rename"] .empty Renames.ofDatum? options.rename
  exactTableNames : Gives entries ["emit_exact_table_names"] false flag?
    options.emitExactTableNames
  inflection : Gives entries ["inflection_exclude_table_names"] [] (listOf? text?)
    options.inflectionExcludeTableNames
  limit : Gives entries ["query_parameter_limit"] none (optional? int32?)
    options.queryParameterLimit
  omitToolVersion : Gives entries ["omit_sqlc_version"] false flag? options.omitToolVersion
  omitUnused : Gives entries ["omit_unused_structs"] false flag? options.omitUnusedStructs
  defaultSchema : Gives entries ["default_schema"] none (optional? text?) options.defaultSchema
  commonParts : Gives entries ["gen_common_parts"] false flag? options.genCommonParts
  exclude : Gives entries ["exclude"] [] (listOf? text?) options.exclude
  directives : Gives entries ["directives"] [] (listOf? (DirectiveRule.ofDatum? positional))
    options.directives

theorem GivenBy.of_datum (given : GivenBy entries options positional) :
    ofDatum? positional (.record entries) = some options := by
  obtain ⟨package, foundPackage, readPackage⟩ := given.package
  obtain ⟨out, foundOut, readOut⟩ := given.out
  obtain ⟨overrides, foundOverrides, readOverrides⟩ := given.overrides
  obtain ⟨rename, foundRename, readRename⟩ := given.rename
  obtain ⟨exactTableNames, foundExactTableNames, readExactTableNames⟩ := given.exactTableNames
  obtain ⟨inflection, foundInflection, readInflection⟩ := given.inflection
  obtain ⟨limit, foundLimit, readLimit⟩ := given.limit
  obtain ⟨omitToolVersion, foundOmitToolVersion, readOmitToolVersion⟩ := given.omitToolVersion
  obtain ⟨omitUnused, foundOmitUnused, readOmitUnused⟩ := given.omitUnused
  obtain ⟨defaultSchema, foundDefaultSchema, readDefaultSchema⟩ := given.defaultSchema
  obtain ⟨commonParts, foundCommonParts, readCommonParts⟩ := given.commonParts
  obtain ⟨exclude, foundExclude, readExclude⟩ := given.exclude
  obtain ⟨directives, foundDirectives, readDirectives⟩ := given.directives
  have members : members? positional layout (.record entries) =
      some [package, out, overrides, rename, exactTableNames, inflection, limit, omitToolVersion,
        omitUnused, defaultSchema, commonParts, exclude, directives] := by
    simp only [members?, given.texts, if_true, layout, List.mapM_cons, List.mapM_nil,
      Option.pure_def, Option.bind_eq_bind, Option.bind_some, foundPackage, foundOut,
      foundOverrides, foundRename, foundExactTableNames, foundInflection, foundLimit,
      foundOmitToolVersion, foundOmitUnused, foundDefaultSchema, foundCommonParts, foundExclude,
      foundDirectives]
  unfold ofDatum?
  rw [members, Option.bind_eq_bind, Option.bind_some]
  dsimp only
  rw [readPackage, readOut, readOverrides, readRename, readExactTableNames, readInflection,
    readLimit, readOmitToolVersion, readOmitUnused, readDefaultSchema, readCommonParts, readExclude,
    readDirectives]
  rfl

theorem of_datum_of_pads (pads : Pads options.toDatum padded) (positional : Positional) :
    ofDatum? positional padded = some options := by
  obtain ⟨_, others, same, rfl, padded⟩ := pads
  obtain rfl := Datum.record.inj same
  have untouched := @untouched_of_not_mem
  refine GivenBy.of_datum ?_
  refine {
    texts := padded.texts ?_
    package := padded.gives ?_ ?_ (text_writes "package" (untouched (by decide)) _)
    out := padded.gives ?_ ?_ (text_writes "out" (untouched (by decide)) _)
    overrides := padded.gives ?_ ?_ (overrides_write positional _)
    rename := padded.gives ?_ ?_ (renames_write (untouched (by decide)) _)
    exactTableNames := padded.gives ?_ ?_
      (flag_writes "emit_exact_table_names" (untouched (by decide)) _)
    inflection := padded.gives ?_ ?_
      (texts_unless_empty_write "inflection_exclude_table_names" (untouched (by decide)) _)
    limit := padded.gives ?_ ?_
      (if_present_writes "query_parameter_limit" (untouched (by decide)) optional_int32 _)
    omitToolVersion := padded.gives ?_ ?_
      (flag_writes "omit_sqlc_version" (untouched (by decide)) _)
    omitUnused := padded.gives ?_ ?_
      (flag_writes "omit_unused_structs" (untouched (by decide)) _)
    defaultSchema := padded.gives ?_ ?_
      (if_present_writes "default_schema" (untouched (by decide)) optional_text _)
    commonParts := padded.gives ?_ ?_
      (flag_writes "gen_common_parts" (untouched (by decide)) _)
    exclude := padded.gives ?_ ?_ (texts_unless_empty_write "exclude" (untouched (by decide)) _)
    directives := padded.gives ?_ ?_ (directives_write positional _) } <;>
  simp [layout]

end Options

namespace GlobalOptions

variable {entries : Member} {options : GlobalOptions} {padded : Datum} {positional : Positional}

def Pads : Datum → Datum → Prop := PadsRecord layout PadsWithin

structure GivenBy (entries : Member) (options : GlobalOptions) (positional : Positional) :
    Prop where
  texts : entries.all (·.1.isSome) = true
  overrides : Gives entries ["overrides"] [] (listOf? (Override.ofDatum? positional))
    options.overrides
  rename : Gives entries ["rename"] .empty Renames.ofDatum? options.rename

theorem GivenBy.of_datum (given : GivenBy entries options positional) :
    ofDatum? positional (.record entries) = some options := by
  obtain ⟨_, overrides, readOverrides⟩ := given.overrides
  obtain ⟨_, rename, readRename⟩ := given.rename
  simp only [ofDatum?, members?, layout, given.texts, if_true, List.mapM_cons, List.mapM_nil,
    Option.pure_def, Option.bind_eq_bind, Option.bind_some, overrides, readOverrides, rename,
    readRename]

theorem of_datum_of_pads (pads : Pads options.toDatum padded) (positional : Positional) :
    ofDatum? positional padded = some options := by
  obtain ⟨_, others, same, rfl, padded⟩ := pads
  obtain rfl := Datum.record.inj same
  refine GivenBy.of_datum ?_
  refine {
    texts := padded.texts ?_
    overrides := padded.gives ?_ ?_ (overrides_write positional _)
    rename := padded.gives ?_ ?_ (renames_write (untouched_of_not_mem (by decide)) _) } <;>
  simp [layout]

end GlobalOptions

/-- A datum is read as a value, and so is every text in which a reader of JSON finds it. -/
structure DocumentKind.Reads {α : Type} (kind : DocumentKind α) (datum : Datum) (value : α)
    (readJson? : JsonReader := Json.read?) : Prop where
  ofDatum : ∀ positional, kind.ofDatum? positional datum = some value
  ofBytes : ∀ bytes, readJson? bytes = some datum → kind.ofBytes bytes readJson? = .ok value
  ofText : ∀ content, readJson? (Text.utf8 content) = some datum →
    kind.ofText .json content readJson? = .ok value

theorem reads_of_datum {α : Type} {kind : DocumentKind α} {datum : Datum} {value : α}
    {readJson? : JsonReader} (blanks : readJson?.RefusesBlanks)
    (decodes : ∀ positional, kind.ofDatum? positional datum = some value) :
    kind.Reads datum value readJson? where
  ofDatum := decodes
  ofBytes := by
    intro bytes written
    have inked : bytes.all DocumentKind.isAsciiBlank ≠ true := by
      intro blank
      rw [blanks.ofBytes bytes blank] at written
      cases written
    rw [DocumentKind.ofBytes, if_neg inked, written, Option.bind_some, decodes]
  ofText := by
    intro content written
    have inked : content.toList.all Text.isBlank ≠ true := by
      intro blank
      rw [blanks.ofText content blank] at written
      cases written
    have read : FileFormat.read? .json content readJson? = some datum := written
    rw [DocumentKind.ofText, if_neg inked, read, Option.bind_some, decodes]

/-- Options, and shared options likewise, are read from the document that they are written to, and
from every document that has other members besides. All that it takes of the reader of JSON is that
it finds no document in white space. -/
theorem option_documents_of_reader {readJson? : JsonReader} (blanks : readJson?.RefusesBlanks)
    (options : Options) (shared : GlobalOptions) :
    Options.documents.Reads options.toDatum options readJson? ∧
    (∀ padded, Options.Pads options.toDatum padded →
      Options.documents.Reads padded options readJson?) ∧
    GlobalOptions.documents.Reads shared.toDatum shared readJson? ∧
    ∀ padded, GlobalOptions.Pads shared.toDatum padded →
      GlobalOptions.documents.Reads padded shared readJson? := by
  have ofOwn : ∀ padded, Options.Pads options.toDatum padded →
      Options.documents.Reads padded options readJson? :=
    fun _ pads => reads_of_datum blanks (Options.of_datum_of_pads pads)
  have ofShared : ∀ padded, GlobalOptions.Pads shared.toDatum padded →
      GlobalOptions.documents.Reads padded shared readJson? :=
    fun _ pads => reads_of_datum blanks (GlobalOptions.of_datum_of_pads pads)
  refine ⟨ofOwn _ ?_, ofOwn, ofShared _ ?_, ofShared⟩
  · exact ⟨_, _, rfl, rfl, .refl _⟩
  · exact ⟨_, _, rfl, rfl, .refl _⟩

theorem option_documents_come_back (options : Options) (shared : GlobalOptions) :
    Options.documents.Reads options.toDatum options ∧
    (∀ padded, Options.Pads options.toDatum padded → Options.documents.Reads padded options) ∧
    GlobalOptions.documents.Reads shared.toDatum shared ∧
    ∀ padded, GlobalOptions.Pads shared.toDatum padded →
      GlobalOptions.documents.Reads padded shared :=
  option_documents_of_reader Json.refuses_blanks options shared

def shelfOptions : Options where
  package := "shop"
  overrides := [{ dbType := "uuid", gqlType := "Key" }]
  queryParameterLimit := some (-1)
  directives := [{ model := "Book", directive := "@old" }]

/-- The document of these options with notes at the top, in the override and in the rule. -/
def notedShelf : Datum :=
  .record [
    (some "note", .list [.leaf .other]),
    (some "package", ofText "shop"),
    (some "out", ofText ""),
    (some "overrides", .list [.record [
      (some "db_type", ofText "uuid"),
      (some "note", .leaf .null),
      (some "gql_type", ofText "Key")]]),
    (some "emit_exact_table_names", ofFlag false),
    (some "query_parameter_limit", ofInteger (-1)),
    (some "omit_sqlc_version", ofFlag false),
    (some "omit_unused_structs", ofFlag false),
    (some "note", .record []),
    (some "gen_common_parts", ofFlag false),
    (some "directives", .list [.record [
      (some "model", ofText "Book"),
      (some "directive", ofText "@old"),
      (some "note", ofFlag true)]])]

def notedOverrides : String :=
  "\n\x7b\"note\": [1.5], \"overrides\": [\x7b\"gql_type\": \"Key\", \"note\": \x7b\x7d\x7d]\x7d"

set_option maxRecDepth 4000 in
theorem noted_documents_come_back :
    Options.documents.Reads notedShelf shelfOptions ∧
      GlobalOptions.documents.ofText .json notedOverrides =
        .ok { overrides := [{ gqlType := "Key" }] } := by
  obtain ⟨_, ofOwn, _, ofShared⟩ :=
    option_documents_come_back shelfOptions { overrides := [{ gqlType := "Key" }] }
  constructor
  · apply ofOwn
    refine ⟨_, _, rfl, rfl, .added (by decide) (.same (.same (.inside (Or.inl ⟨rfl, ?_⟩) (.same
      (.same (.same (.same (.added (by decide) (.same (.inside (Or.inr ⟨rfl, ?_⟩) .nil))))))))))⟩
    · exact ⟨_, _, rfl, rfl,
        .cons ⟨_, _, rfl, rfl, .same (.added (by decide) (.same .nil))⟩ .nil⟩
    · exact ⟨_, _, rfl, rfl,
        .cons ⟨_, _, rfl, rfl, .same (.same (.added (by decide) .nil))⟩ .nil⟩
  · have written : Json.read? (Text.utf8 notedOverrides) = some (.record [
        (some "note", .list [.leaf .other]),
        (some "overrides", .list [.record [
          (some "gql_type", ofText "Key"), (some "note", .record [])]])]) := by
      rfl
    refine (ofShared _ ?_).ofText notedOverrides written
    refine ⟨_, _, rfl, rfl, .added (by decide) (.inside (Or.inl ⟨rfl, ?_⟩) .nil)⟩
    exact ⟨_, _, rfl, rfl, .cons ⟨_, _, rfl, rfl, .same (.added (by decide) .nil)⟩ .nil⟩

end GraphSchema
