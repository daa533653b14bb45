import GraphSchema.Options.Document
import GraphSchema.Options.Exclude

/-!
The merged and checked options, the only form that the assembly sees. Shared overrides come before
the generator's own, while a replacement of a name comes from the generator's own options first.
-/

namespace GraphSchema

structure ResolvedOptions where
  package : String := ""
  overrides : OverrideSet := {}
  rename : Renames := .empty
  emitExactTableNames : Bool := false
  inflectionExcludeTableNames : List String := []
  /-- The number of parameters up to which a query takes them one by one. -/
  queryParameterLimit : Nat := 1
  omitToolVersion : Bool := false
  omitUnusedStructs : Bool := false
  defaultSchema : Option String := none
  genCommonParts : Bool := false
  exclude : ExcludeRules := {}
  directives : DirectiveRules := {}

def checkedLimit (limit : Int) : Except OptionsError Nat :=
  if limit < 0 then .error (.negativeParameterLimit limit) else .ok limit.toNat

def effectivePackage (options : Options) : Except OptionsError String :=
  match options.effectivePackage? with
  | some package => .ok package
  | none => .error .missingPackage

def resolve (own : Options) (shared : GlobalOptions) : Except OptionsError ResolvedOptions := do
  let package ← effectivePackage own
  let queryParameterLimit ← checkedLimit own.parameterLimit
  let exclude ← ExcludeRules.parse own.exclude
  let overrides ← OverrideSet.compile (shared.overrides ++ own.overrides)
  return {
    package
    overrides
    rename := own.rename.orElse shared.rename
    emitExactTableNames := own.emitExactTableNames
    inflectionExcludeTableNames := own.inflectionExcludeTableNames
    queryParameterLimit
    omitToolVersion := own.omitToolVersion
    omitUnusedStructs := own.omitUnusedStructs
    defaultSchema := own.defaultSchema.filter (· ≠ "")
    genCommonParts := own.genCommonParts
    exclude
    directives := { rules := own.directives } }

end GraphSchema
