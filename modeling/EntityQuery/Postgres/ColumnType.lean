/-
# Column types

The types of parameters and columns, by their names in the PostgreSQL catalogue.
-/

namespace EntityQuery
namespace Postgres

/-- The type of a parameter or column. -/
inductive ColumnType where
  | bool
  | int2
  | int4
  | int8
  | float4
  | float8
  | text
  | varchar
  | bytea
  | uuid
  | timestamp
  | timestamptz
  | json
  | jsonb
  | numeric
  | date
  deriving DecidableEq, Repr

namespace ColumnType

/-- The name in the catalogue. -/
def name : ColumnType → String
  | bool => "bool"
  | int2 => "int2"
  | int4 => "int4"
  | int8 => "int8"
  | float4 => "float4"
  | float8 => "float8"
  | text => "text"
  | varchar => "varchar"
  | bytea => "bytea"
  | uuid => "uuid"
  | timestamp => "timestamp"
  | timestamptz => "timestamptz"
  | json => "json"
  | jsonb => "jsonb"
  | numeric => "numeric"
  | date => "date"

/-- Every type. -/
def all : List ColumnType :=
  [bool, int2, int4, int8, float4, float8, text, varchar, bytea, uuid, timestamp, timestamptz, json,
    jsonb, numeric, date]

/-- The type of a name. -/
def ofName? (text : String) : Option ColumnType :=
  all.find? fun type => type.name == text

end ColumnType
end Postgres
end EntityQuery
