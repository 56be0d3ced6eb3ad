import SchemaDdl.LogicalType
import SchemaDdl.StoreType.Descriptor

/-!
# Built-in types

The scalar types that the server knows, with all their names, and the type
that each logical scalar is stored as.
-/

namespace SchemaDdl

/-- A built-in type: its canonical name, its other names, and its literals. -/
structure Builtin where
  name : String
  aliases : List String := []
  style : LiteralStyle := .plain

namespace Builtin

def all : List Builtin := [
  { name := "boolean", aliases := ["bool"] },
  { name := "bytea" },
  { name := "real", aliases := ["float4"] },
  { name := "double precision", aliases := ["float8"] },
  { name := "numeric", aliases := ["decimal"] },
  { name := "money" },
  { name := "uuid" },
  { name := "smallint", aliases := ["int2"] },
  { name := "integer", aliases := ["int", "int4"] },
  { name := "bigint", aliases := ["int8"] },
  { name := "text" },
  { name := "character varying", aliases := ["varchar"] },
  { name := "character", aliases := ["char"] },
  { name := "citext" },
  { name := "jsonb" },
  { name := "json" },
  { name := "xml" },
  { name := "timestamp without time zone", aliases := ["timestamp"],
    style := .labelled "TIMESTAMP" },
  { name := "timestamp with time zone", aliases := ["timestamptz"],
    style := .labelled "TIMESTAMPTZ" },
  { name := "date", style := .labelled "DATE" },
  { name := "time without time zone", aliases := ["time"], style := .labelled "TIME" },
  { name := "time with time zone", aliases := ["timetz"], style := .labelled "TIMETZ" },
  { name := "interval", style := .labelled "INTERVAL" },
  { name := "macaddr", style := .labelled "MACADDR" },
  { name := "inet", style := .labelled "INET" },
  { name := "cidr", style := .labelled "CIDR" },
  { name := "bit", style := .bits },
  { name := "bit varying", aliases := ["varbit"], style := .bits },
  { name := "hstore" },
  { name := "point", style := .labelled "POINT" },
  { name := "line", style := .labelled "LINE" },
  { name := "lseg", style := .labelled "LSEG" },
  { name := "box", style := .labelled "BOX" },
  { name := "path", style := .labelled "PATH" },
  { name := "polygon", style := .labelled "POLYGON" },
  { name := "circle", style := .labelled "CIRCLE" },
  { name := "tsvector" },
  { name := "tsquery" },
  { name := "regconfig" },
  { name := "int4range" },
  { name := "int8range" },
  { name := "numrange" },
  { name := "tsrange" },
  { name := "tstzrange" },
  { name := "daterange" },
  { name := "oid" },
  { name := "xid" },
  { name := "cid" },
  { name := "tid" },
  { name := "regtype" }]

def descriptor (b : Builtin) : Descriptor := .scalar b.name none b.style

def find? (name : String) : Option Builtin :=
  all.find? fun b => b.name = name || b.aliases.contains name

/-- The names after which a size may stand. -/
def sizable : List String :=
  ["character varying", "varchar", "character", "char", "bit", "bit varying", "varbit"]

end Builtin

def Descriptor.builtin? (name : String) : Option Descriptor :=
  (Builtin.find? name).map Builtin.descriptor

namespace ScalarType

def storeName : ScalarType → String
  | bool => "boolean"
  | bytes => "bytea"
  | float32 => "real"
  | float64 => "double precision"
  | decimal => "numeric"
  | uuid => "uuid"
  | int16 => "smallint"
  | int32 => "integer"
  | int64 => "bigint"
  | string => "text"
  | char => "character"
  | dateTime => "timestamp without time zone"
  | dateTimeOffset => "timestamp with time zone"
  | timeSpan => "interval"
  | date => "date"
  | time => "time without time zone"
  | json => "jsonb"
  | ipAddress => "inet"
  | ipNetwork => "cidr"
  | macAddress => "macaddr"
  | bitVec => "bit varying"
  | dictionary => "hstore"
  | point => "point"

/-- The size that belongs to a logical scalar: a `char` is one character long. -/
def fixedSize? : ScalarType → Option Nat
  | char => some 1
  | _ => none

def descriptor? (t : ScalarType) : Option Descriptor :=
  (Descriptor.builtin? t.storeName).map fun d =>
    match t.fixedSize? with
    | some size => d.resize size
    | none => d

end ScalarType

end SchemaDdl
