import NamedSql.Bytes.Hex
import NamedSql.Text.Split
/-!
Network addresses as texts, in the fourth and the sixth version of the Internet Protocol. Names of
hosts are no addresses.
-/
namespace NamedSql.Http

/-- Whether a text is a number below 256, without zeros in front. -/
def isOctet (s : List Char) : Bool :=
  s.all Char.isDigit && !s.isEmpty && s.length ≤ 3 &&
    s.foldl (fun n c => n * 10 + (c.toNat - 48)) 0 < 256 && (s.length = 1 || s.head? != some '0')

/-- Four octets between points. -/
def isVersion4 (s : List Char) : Bool :=
  let parts := Text.splitAll '.' s
  parts.length = 4 && parts.all isOctet

/-- One to four hexadecimal digits. -/
def isHexGroup (s : List Char) : Bool :=
  !s.isEmpty && s.length ≤ 4 && s.all fun c => (Bytes.hexValue? c).isSome

/-- The parts between the colons of a text; an empty text has none. -/
def colonParts (s : List Char) : List (List Char) := if s.isEmpty then [] else Text.splitAll ':' s

/-- How many groups parts stand for. The last may be an address of version 4, in the place of two
groups. -/
def groups? (parts : List (List Char)) : Option Nat :=
  if parts.all isHexGroup then some parts.length
  else if parts.dropLast.all isHexGroup ∧ parts.getLast?.any isVersion4 then some (parts.length + 1)
  else none

/-- Eight groups between colons, of which two colons may leave out one or more that are zero. -/
def isVersion6 (s : List Char) : Bool :=
  match Text.splitFirst [':', ':'] s with
  | none => groups? (colonParts s) = some 8
  | some (before, after) =>
    (colonParts before).all isHexGroup &&
      (groups? (colonParts after)).any fun count => (colonParts before).length + count ≤ 7

/-- Whether a host is given as an address. -/
def isAddress (host : String) : Bool := isVersion4 host.toList || isVersion6 host.toList

end NamedSql.Http
