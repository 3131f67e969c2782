import NamedSql.Http.Percent
import NamedSql.Text.Split
/-!
Pairs of names and values as a query string writes them: pieces between ampersands, in each a name
and a value around the first equals sign, blanks written as plus signs. Bytes that are no UTF-8 are
replaced, so that every query string has its pairs.
-/
namespace NamedSql.Http.Form

/-- The text of a name or a value. -/
def decode (s : List Char) : String :=
  let spaced := s.map fun c => if c = '+' then ' ' else c
  Text.Utf8.decodeLossy (percentDecode (Text.Utf8.encode (String.ofList spaced)))

/-- The name and the value of a piece. -/
def pair (piece : List Char) : String × String :=
  match Text.splitFirst ['='] piece with
  | some (name, value) => (decode name, decode value)
  | none => (decode piece, "")

/-- The pairs of a query string. -/
def pairs (query : String) : List (String × String) :=
  ((Text.splitAll '&' query.toList).filter (!·.isEmpty)).map pair

end NamedSql.Http.Form
