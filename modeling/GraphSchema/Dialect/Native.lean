import GraphSchema.Catalog
import GraphSchema.Dialect.Target

/-!
The native types that each engine has of its own, with what stands for them.
-/

namespace GraphSchema.Dialect

/-- The types of PostgreSQL. Decimals travel as text. -/
def postgres : NativeTable Storage := [
  (["serial", "serial4", "pg_catalog.serial4"], .wrapped .int32),
  (["bigserial", "serial8", "pg_catalog.serial8"], .wrapped .int64),
  (["smallserial", "serial2", "pg_catalog.serial2"], .wrapped .int16),
  (["integer", "int", "int4", "pg_catalog.int4"], .wrapped .int32),
  (["bigint", "int8", "pg_catalog.int8"], .wrapped .int64),
  (["smallint", "int2", "pg_catalog.int2"], .wrapped .int16),
  (["float", "double precision", "float8", "pg_catalog.float8"], .wrapped .float64),
  (["real", "float4", "pg_catalog.float4"], .wrapped .float32),
  (["numeric", "pg_catalog.numeric", "money"], .wrapped .text),
  (["boolean", "bool", "pg_catalog.bool"], .wrapped .bool),
  (["json"], .bare .json),
  (["jsonb"], .bare .jsonb),
  (["bytea", "blob", "pg_catalog.bytea"], .bare .bytes),
  (["date", "time", "pg_catalog.time", "timetz", "pg_catalog.timetz", "timestamp",
    "pg_catalog.timestamp", "timestamptz", "pg_catalog.timestamptz"], .wrapped .time),
  (["text", "pg_catalog.varchar", "pg_catalog.bpchar", "string", "citext", "name"],
    .wrapped .text),
  (["uuid"], .wrapped .uuid),
  (["inet"], .wrapped .inetAddr),
  (["cidr"], .wrapped .cidrPrefix),
  (["macaddr", "macaddr8"], .bare .macAddr),
  (["ltree", "lquery", "ltxtquery"], .wrapped .text),
  (["interval", "pg_catalog.interval"], .wrapped .int64),
  (["daterange"], .bare .dateRange),
  (["datemultirange"], .bare .dateMultirange),
  (["xid"], .bare (.qualified "pgtype.Uint32")),
  (["tsrange", "tsmultirange", "tstzrange", "tstzmultirange", "numrange", "nummultirange",
    "int4range", "int4multirange", "int8range", "int8multirange", "hstore", "bit", "varbit",
    "pg_catalog.bit", "pg_catalog.varbit", "cid", "oid", "tid", "box", "circle", "line", "lseg",
    "path", "point", "polygon", "vector", "void", "any"], .unmapped)]

def whole (signed unsigned : HostType) (column : Column) : Storage :=
  .wrapped (if column.unsigned then unsigned else signed)

/-- The types of MySQL, in lower case. A `tinyint` of length one is a truth value, and an enum
that is defined in its column has no name, so that it is text. -/
def mysql : NativeTable (Column → Storage) := [
  (["varchar", "text", "char", "tinytext", "mediumtext", "longtext"], fun _ => .wrapped .text),
  (["tinyint"], fun column =>
    if column.length = 1 then .wrapped .bool else whole .int8 .uint8 column),
  (["year"], fun _ => .wrapped .int16),
  (["smallint"], whole .int16 .uint16),
  (["int", "integer", "mediumint"], whole .int32 .uint32),
  (["bigint"], whole .int64 .uint64),
  (["blob", "binary", "varbinary", "tinyblob", "mediumblob", "longblob"], fun _ => .bare .bytes),
  (["double", "double precision", "real", "float"], fun _ => .wrapped .float64),
  (["decimal", "dec", "fixed"], fun _ => .wrapped .text),
  (["enum"], fun _ => .wrapped .text),
  (["date", "timestamp", "datetime", "time"], fun _ => .wrapped .time),
  (["boolean", "bool"], fun _ => .wrapped .bool),
  (["json"], fun _ => .bare .json),
  (["any"], fun _ => .unmapped)]

def sqlite : NativeTable Storage := [
  (["int", "integer", "tinyint", "smallint", "mediumint", "bigint", "unsignedbigint", "int2",
    "int8"], .wrapped .int64),
  (["blob"], .bare .bytes),
  (["real", "double", "doubleprecision", "float"], .wrapped .float64),
  (["boolean", "bool"], .wrapped .bool),
  (["date", "datetime", "timestamp"], .wrapped .time),
  (["any"], .unmapped),
  (["text", "clob"], .wrapped .text),
  (["numeric"], .wrapped .float64)]

/-- What a declared type of SQLite may begin with, where it is not one of the names. -/
def sqliteOpenings : List (String × Storage) := [
  ("character", .wrapped .text), ("varchar", .wrapped .text),
  ("varyingcharacter", .wrapped .text), ("nchar", .wrapped .text),
  ("nativecharacter", .wrapped .text), ("nvarchar", .wrapped .text),
  ("decimal", .wrapped .float64)]

end GraphSchema.Dialect
