import GraphSchema.Catalog

/-!
A generation request: the engine, its catalog, the analysed queries and the two blocks of options,
which arrive as bytes.
-/

namespace GraphSchema

inductive Engine
  | postgresql
  | mysql
  | sqlite
  | unsupported
  deriving DecidableEq

namespace Engine

def name : Engine → String
  | postgresql => "postgresql"
  | mysql => "mysql"
  | sqlite => "sqlite"
  | unsupported => "unsupported"

/-- The engine of a name; any other name is an unsupported engine. -/
def ofName : String → Engine
  | "postgresql" => postgresql
  | "mysql" => mysql
  | "sqlite" => sqlite
  | _ => unsupported

end Engine

inductive Command
  | exec
  | one
  | many
  | batchOne
  | batchMany
  | execRows
  | execLastId
  | execResult
  deriving DecidableEq

namespace Command

def all : List Command :=
  [exec, one, many, batchOne, batchMany, execRows, execLastId, execResult]

def name : Command → String
  | exec => ":exec"
  | one => ":one"
  | many => ":many"
  | batchOne => ":batchone"
  | batchMany => ":batchmany"
  | execRows => ":execrows"
  | execLastId => ":execlastid"
  | execResult => ":execresult"

def ofName? (text : String) : Option Command := all.find? (·.name = text)

def returnsRows : Command → Bool
  | one | many | batchOne | batchMany => true
  | _ => false

def returnsMany : Command → Bool
  | many | batchMany => true
  | _ => false

end Command

structure Parameter where
  number : Int := 0
  column : Column := {}

structure Query where
  text : String := ""
  name : String := ""
  command : Option Command := none
  columns : List Column := []
  params : List Parameter := []
  comments : List String := []
  filename : String := ""

structure Request where
  engine : Engine := .postgresql
  catalog : Catalog := {}
  queries : List Query := []
  toolVersion : String := ""
  /-- The generator's own options, as JSON. -/
  pluginOptions : List UInt8 := []
  /-- The options shared by all generators, as JSON. -/
  globalOptions : List UInt8 := []

end GraphSchema
