import GraphSchema.Dialect.Target
import GraphSchema.Text.Segments

/-!
References to GraphQL types: a scalar or a named type, with the marks for non-null and for lists.
-/

namespace GraphSchema

/-- The base of a reference. A named type of the same spelling as a scalar is another type. -/
inductive Scalar
  | int
  | float
  | boolean
  | string
  | time
  | uuid
  | json
  | named (name : String)
  | unknown
  deriving DecidableEq

namespace Scalar

def name : Scalar → String
  | int => "Int"
  | float => "Float"
  | boolean => "Boolean"
  | string => "String"
  | time => "Time"
  | uuid => "UUID"
  | json => "JSON"
  | named name => name
  | unknown => "Unknown"

/-- The last segment of a dotted path, without the mark of a nullable wrapper. -/
def libraryName (path : String) : String :=
  let last := ((Text.fields '.' path).getLast?).getD path
  if Text.startsWith last "Null" then String.ofList (last.toList.drop 4) else last

def ofHost : HostType → Scalar
  | .int8 | .int16 | .int32 | .int64 | .uint8 | .uint16 | .uint32 | .uint64 => int
  | .float32 | .float64 => float
  | .bool => boolean
  | .text | .inetAddr | .cidrPrefix | .macAddr | .dateRange | .dateMultirange => string
  | .time => time
  | .uuid => uuid
  | .bytes | .json | .jsonb => json
  | .enumeration name => named name
  | .override name => named name
  | .qualified path => named (libraryName path)
  | .unknown => unknown

end Scalar

/-- A reference to a type. A list is itself never null. -/
structure TypeRef where
  scalar : Scalar
  nonNull : Bool := false
  list : Bool := false
  deriving DecidableEq

namespace TypeRef

def named (name : String) : TypeRef := { scalar := .named name, nonNull := true }

def listOf (name : String) : TypeRef := { named name with list := true }

def isUnknown (type : TypeRef) : Bool := type.scalar = .unknown

def baseName (type : TypeRef) : String := type.scalar.name

def render (type : TypeRef) : String :=
  let item := type.baseName ++ if type.nonNull then "!" else ""
  if type.list then "[" ++ item ++ "]!" else item

end TypeRef

end GraphSchema
