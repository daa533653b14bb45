import GraphSchema.Text.Printable

/-!
Host types: the representation in which a program holds the values of a column, and whether a
nullable wrapper is around it.
-/

namespace GraphSchema

inductive HostType
  | int8
  | int16
  | int32
  | int64
  | uint8
  | uint16
  | uint32
  | uint64
  | float32
  | float64
  | bool
  | text
  | time
  | uuid
  | bytes
  | json
  | jsonb
  | inetAddr
  | cidrPrefix
  | macAddr
  | dateRange
  | dateMultirange
  /-- An enum of the catalog, by the name of its type. -/
  | enumeration (name : String)
  /-- A library type, by its dotted path. -/
  | qualified (path : String)
  | override (name : String)
  | unknown
  deriving DecidableEq

namespace HostType

def render : HostType → String
  | int8 => "Int8"
  | int16 => "Int16"
  | int32 => "Int32"
  | int64 => "Int64"
  | uint8 => "Uint8"
  | uint16 => "Uint16"
  | uint32 => "Uint32"
  | uint64 => "Uint64"
  | float32 => "Float32"
  | float64 => "Float64"
  | bool => "Bool"
  | text => "Text"
  | time => "Time"
  | uuid => "Uuid"
  | bytes => "Bytes"
  | json => "Json"
  | jsonb => "Jsonb"
  | inetAddr => "InetAddr"
  | cidrPrefix => "CidrPrefix"
  | macAddr => "MacAddr"
  | dateRange => "DateRange"
  | dateMultirange => "DateMultirange"
  | enumeration name => "Enum(" ++ Text.quoteText name ++ ")"
  | qualified path => "Qualified(" ++ Text.quoteText path ++ ")"
  | override name => "Override(" ++ Text.quoteText name ++ ")"
  | unknown => "Unknown"

def simple : List HostType :=
  [int8, int16, int32, int64, uint8, uint16, uint32, uint64, float32, float64, bool, text, time,
    uuid, bytes, json, jsonb, inetAddr, cidrPrefix, macAddr, dateRange, dateMultirange, unknown]

def ofName? (name argument : String) : Option HostType :=
  match name with
  | "Enum" => some (enumeration argument)
  | "Qualified" => some (qualified argument)
  | "Override" => some (override argument)
  | _ => simple.find? (·.render = name)

end HostType

structure TargetType where
  host : HostType
  nullable : Bool
  deriving DecidableEq

namespace TargetType

def isUnknown (target : TargetType) : Bool := target.host = .unknown

def render (target : TargetType) : String :=
  if target.nullable then "Option<" ++ target.host.render ++ ">" else target.host.render

end TargetType

/-- What a dialect knows of a native type: a host type that takes the nullable wrapper where the
column may be null, or one that never does. -/
inductive Storage
  | wrapped (host : HostType)
  | bare (host : HostType)
  deriving DecidableEq

namespace Storage

def unmapped : Storage := .bare .unknown

def host : Storage → HostType
  | wrapped host => host
  | bare host => host

def target (storage : Storage) (notNull : Bool) : TargetType :=
  match storage with
  | wrapped host => ⟨host, !notNull⟩
  | bare host => ⟨host, false⟩

end Storage

abbrev NativeTable (α : Type) := List (List String × α)

def NativeTable.find? {α : Type} (table : NativeTable α) (name : String) : Option α :=
  table.findSome? fun (names, value) => if names.contains name then some value else none

end GraphSchema
