import GraphSchema.Annotation.Binding
import GraphSchema.Annotation.PublicComments
import GraphSchema.Assembly.Enums
import GraphSchema.Assembly.Error
import GraphSchema.Assembly.Generate
import GraphSchema.Assembly.Models
import GraphSchema.Assembly.Paging
import GraphSchema.Assembly.Plan
import GraphSchema.Assembly.Queries
import GraphSchema.Assembly.Reachable
import GraphSchema.Assembly.Row
import GraphSchema.Assembly.Scope
import GraphSchema.Catalog
import GraphSchema.Dialect.Native
import GraphSchema.Dialect.Target
import GraphSchema.Format.Datum
import GraphSchema.Format.Json
import GraphSchema.Format.Nesting
import GraphSchema.Format.Scan
import GraphSchema.Format.Toml
import GraphSchema.Format.Yaml
import GraphSchema.Format.Yaml.Glyph
import GraphSchema.Format.Yaml.Node
import GraphSchema.Format.Yaml.Scalar
import GraphSchema.Format.Yaml.Token
import GraphSchema.Inflection.Ending
import GraphSchema.Inflection.Singular
import GraphSchema.Model.Basic
import GraphSchema.Model.TypeRef
import GraphSchema.Naming
import GraphSchema.Options.Decode
import GraphSchema.Options.Directive
import GraphSchema.Options.Document
import GraphSchema.Options.Encode
import GraphSchema.Options.Error
import GraphSchema.Options.Exclude
import GraphSchema.Options.FilePath
import GraphSchema.Options.Glob
import GraphSchema.Options.Override
import GraphSchema.Options.Renames
import GraphSchema.Options.Resolve
import GraphSchema.Proofs.Bindings
import GraphSchema.Proofs.Declarations
import GraphSchema.Proofs.Feedback
import GraphSchema.Proofs.FieldTypes
import GraphSchema.Proofs.Generation
import GraphSchema.Proofs.InputStructs
import GraphSchema.Proofs.ModelReuse
import GraphSchema.Proofs.Outcome
import GraphSchema.Proofs.PrunedReferences
import GraphSchema.Proofs.Pruning
import GraphSchema.Proofs.References
import GraphSchema.Proofs.UniqueNames
import GraphSchema.Request
import GraphSchema.Text.Alphanumeric
import GraphSchema.Text.Blank
import GraphSchema.Text.CaseTable
import GraphSchema.Text.Casing
import GraphSchema.Text.CodeRange
import GraphSchema.Text.Digits
import GraphSchema.Text.Printable
import GraphSchema.Text.Segments
import GraphSchema.Text.Sorting
import GraphSchema.Text.Utf8
import GraphSchema.Proofs.AlikeScopes
import GraphSchema.Proofs.InputOrder
import GraphSchema.Proofs.ColumnTypes
import GraphSchema.Proofs.SkippedInput
import GraphSchema.Proofs.DocumentPlan
import GraphSchema.Proofs.DocumentNames
import GraphSchema.Proofs.HiddenFields
import GraphSchema.Proofs.PaddedRecords
import GraphSchema.Proofs.BlankDocuments
import GraphSchema.Proofs.OptionDocuments
import GraphSchema.Proofs.MergedOptions
import GraphSchema.Proofs.ColumnMarks
import GraphSchema.Proofs.PascalNames
import GraphSchema.Proofs.FieldNumbers
import GraphSchema.Proofs.ParameterFields
import GraphSchema.Proofs.SettledTypes
import GraphSchema.Proofs.RowFields
import GraphSchema.Proofs.RowOutcome
import GraphSchema.Proofs.RowNames
import GraphSchema.Proofs.EmbeddedRows
import GraphSchema.Proofs.EnumConstants
import GraphSchema.Proofs.BindingLines
import GraphSchema.Proofs.FieldAliases
import GraphSchema.Proofs.RenderedTypes
import GraphSchema.Proofs.TypeConflicts
import GraphSchema.Proofs.AnnotationLines
import GraphSchema.Proofs.GlobTexts
import GraphSchema.Proofs.PublishedBands
import GraphSchema.Proofs.ExcludedFields
import GraphSchema.Proofs.ColumnRules
import GraphSchema.Proofs.JoinedDirectives
import GraphSchema.Proofs.BareNames
import GraphSchema.Proofs.WordEndings
import GraphSchema.Proofs.LastWords
import GraphSchema.Proofs.PascalScan
import GraphSchema.Proofs.SingularSpellings
import GraphSchema.Proofs.ListedTables
import GraphSchema.Proofs.StableNames
import GraphSchema.Proofs.PluralStems
import GraphSchema.Proofs.SnakeNames
