/-!
The names of types. A column or a placeholder has one of the server's own types or one that was
declared on it; any other name stands for text.
-/
namespace NamedSql.Postgres

/-- The server's own types that have no arrays. -/
def simpleTypes : List String := ["UNKNOWN", "VOID"]

/-- The server's own types that have arrays too. -/
def elementTypes : List String :=
  ["BOOL", "BYTEA", "\"CHAR\"", "NAME", "INT8", "INT2", "INT4", "TEXT", "OID", "JSON", "POINT",
    "LSEG", "PATH", "BOX", "POLYGON", "LINE", "CIDR", "FLOAT4", "FLOAT8", "CIRCLE", "MACADDR8",
    "MACADDR", "INET", "CHAR", "VARCHAR", "DATE", "TIME", "TIMESTAMP", "TIMESTAMPTZ", "INTERVAL",
    "TIMETZ", "BIT", "VARBIT", "NUMERIC", "RECORD", "UUID", "JSONB", "INT4RANGE", "NUMRANGE",
    "TSRANGE", "TSTZRANGE", "DATERANGE", "INT8RANGE", "JSONPATH", "MONEY"]

/-- The names of the server's own types. -/
def ownTypes : List String := simpleTypes ++ elementTypes ++ elementTypes.map (· ++ "[]")

/-- The name under which a type is known: the blank-padded one goes by `CHAR`, and a name that is
neither the server's own nor among the declared ones stands for text. -/
def typeName (declared : List String) (name : String) : String :=
  if name = "BPCHAR" then "CHAR"
  else if name = "BPCHAR[]" then "CHAR[]"
  else if name ∈ ownTypes ∨ name ∈ declared then name
  else "TEXT"

end NamedSql.Postgres
