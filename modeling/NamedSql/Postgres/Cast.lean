import NamedSql.Sql.Dialect
import NamedSql.Sql.Placeholder
/-!
Casts of values to the types that a PostgreSQL server infers for their placeholders. Texts and nulls
are converted to any type. Other values are converted to text only, so that a comparison of numbers
never rounds one of them.
-/
namespace NamedSql.Postgres

/-- The type that a value is sent as. -/
def wireType : Value → String
  | .null | .text _ => "TEXT"
  | .bool _ => "BOOL"
  | .int _ => "INT8"
  | .float _ => "FLOAT8"

/-- Whether a type's name can stand in a cast: a plain name, or one of an array type. -/
def isCastable (type : String) : Bool :=
  match type.toList with
  | [] => false
  | c :: rest =>
    Sql.isNameStart c && match rest.dropWhile Sql.isNameChar with
      | [] | ['[', ']'] => true
      | _ => false

/-- Whether a value may be converted to a type. -/
def isConvertible : Value → String → Bool
  | .null, _ | .text _, _ => true
  | _, type => type ∈ ["TEXT", "VARCHAR", "BPCHAR", "NAME"]

/-- Whether two names are the same, ASCII letters of either case being alike. -/
def sameName (a b : String) : Bool := a.toList.map Char.toLower == b.toList.map Char.toLower

/-- The type that a value has to be cast to, given the type inferred for its placeholder. -/
def castTarget? (value : Value) (inferred : Option String) : Option String :=
  inferred.filter fun type =>
    isConvertible value type && !sameName type (wireType value) && isCastable type

/-- The n-th placeholder, with a cast where the value has to be converted. -/
def coercedPlaceholder (number : Nat) (value : Value) (inferred : Option String) : String :=
  let placeholder := Sql.Dialect.postgres.placeholder number
  match castTarget? value inferred with
  | none => placeholder
  | some type => "CAST(" ++ placeholder ++ "::" ++ wireType value ++ " AS " ++ type ++ ")"

/-- Expands the placeholders of a statement, the n-th cast according to the n-th inferred type. -/
def expandCoerced (sql : String) (params : Params) (inferred : List (Option String)) :
    Except Sql.Unbound Sql.Expansion :=
  Sql.expand sql params fun number value =>
    coercedPlaceholder number value (inferred[number - 1]?.join)

end NamedSql.Postgres
