/-!
Why an options document is refused, and the words in which it is said.
-/

namespace GraphSchema

inductive FileFormat
  | json
  | yaml
  | toml
  deriving DecidableEq

def FileFormat.name : FileFormat → String
  | json => "json"
  | yaml => "yaml"
  | toml => "toml"

inductive GlobError
  | unclosedClass
  | invalidRange (low high : Char)
  | unopenedGroup
  | unclosedGroup
  | danglingEscape
  deriving DecidableEq

def GlobError.message : GlobError → String
  | unclosedClass => "unclosed character class; missing ']'"
  | invalidRange low high =>
      "invalid range; '" ++ low.toString ++ "' > '" ++ high.toString ++ "'"
  | unopenedGroup => "unopened alternate group; missing '\x7b' (maybe escape '\x7d' with '[\x7d]'?)"
  | unclosedGroup => "unclosed alternate group; missing '\x7d' (maybe escape '\x7b' with '[\x7b]'?)"
  | danglingEscape => "dangling '\\'"

inductive OverrideFault
  | missingReplacement
  | twoTargets
  | noTarget
  | malformedType
  | malformedColumn
  | emptySegment
  deriving DecidableEq

def OverrideFault.message : OverrideFault → String
  | missingReplacement => "gql_type must be set"
  | twoTargets => "only one of db_type and column may be set"
  | noTarget => "one of db_type or column must be set"
  | malformedType => "db_type must look like 'type' or 'schema.type'"
  | malformedColumn => "column must look like 'table.column' or 'schema.table.column'"
  | emptySegment => "table and column segments must not be empty"

inductive OptionsError
  | unreadable (format : FileFormat)
  | missingPackage
  | negativeParameterLimit (limit : Int)
  | invalidExclude (entry : String)
  | invalidOverride (target : String) (fault : OverrideFault)
  | invalidPattern (pattern : String) (fault : GlobError)
  | unsupportedFormat (path : String)
  | unreadableFile
  deriving DecidableEq

def OptionsError.message : OptionsError → String
  | unreadable format => "failed to parse " ++ format.name ++ " options"
  | missingPackage => "invalid options: missing package name"
  | negativeParameterLimit limit =>
      "invalid options: query parameter limit must not be negative (got " ++ limit.repr ++ ")"
  | invalidExclude entry =>
      "invalid exclude '" ++ entry ++ "': expected the format 'GqlTypeName.fieldName'"
  | invalidOverride target fault => "invalid override for " ++ target ++ ": " ++ fault.message
  | invalidPattern pattern fault =>
      "invalid pattern '" ++ pattern ++ "': error parsing glob '" ++ pattern ++ "': " ++
        fault.message
  | unsupportedFormat path => "unsupported options file format: " ++ path
  | unreadableFile => "I/O error"

end GraphSchema
