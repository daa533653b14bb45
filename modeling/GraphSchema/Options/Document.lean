import GraphSchema.Options.Directive
import GraphSchema.Options.FilePath
import GraphSchema.Options.Override
import GraphSchema.Options.Renames

/-!
The options of a generation: the block of this generator and the block shared by all generators,
as their documents give them.
-/

namespace GraphSchema

structure Options where
  package : String := ""
  /-- The output directory, which also names the package when nothing else does. -/
  out : String := ""
  overrides : List Override := []
  rename : Renames := .empty
  emitExactTableNames : Bool := false
  inflectionExcludeTableNames : List String := []
  queryParameterLimit : Option Int32 := none
  omitToolVersion : Bool := false
  omitUnusedStructs : Bool := false
  defaultSchema : Option String := none
  genCommonParts : Bool := false
  exclude : List String := []
  directives : List DirectiveRule := []

structure GlobalOptions where
  overrides : List Override := []
  rename : Renames := .empty

def Options.effectivePackage? (options : Options) : Option String :=
  if options.package ≠ "" then some options.package else FilePath.fileName? options.out

def Options.parameterLimit (options : Options) : Int :=
  (options.queryParameterLimit.getD 1).toInt

end GraphSchema
