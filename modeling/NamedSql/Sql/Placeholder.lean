import NamedSql.Sql.Verbatim
import NamedSql.Value
/-!
Named placeholders. A statement is cut into pieces from left to right: literals and comments, double
colons, placeholders (a colon and a name) and single other characters. Expansion replaces each
placeholder by a positional one and lists the values in the same order; every other piece stays as
it is. It fails at the first placeholder whose name has no value.
-/
namespace NamedSql.Sql

/-- A piece of a statement. -/
inductive Piece where
  | verbatim (text : List Char)
  | doubleColon
  | placeholder (name : List Char)
  | other (c : Char)
deriving DecidableEq, Repr

namespace Piece

/-- The characters of a piece. -/
def text : Piece → List Char
  | verbatim text => text
  | doubleColon => [':', ':']
  | placeholder name => ':' :: name
  | other c => [c]

/-- The piece that a text begins with, when that is no literal or comment. -/
def plain? : List Char → Option (Piece × List Char)
  | [] => none
  | ':' :: ':' :: rest => some (doubleColon, rest)
  | ':' :: c :: rest =>
    if isNameStart c then
      some (placeholder (c :: rest.takeWhile isNameChar), rest.dropWhile isNameChar)
    else some (other ':', c :: rest)
  | c :: rest => some (other c, rest)

/-- The piece that a text begins with, and what follows it. -/
def first? (s : List Char) : Option (Piece × List Char) :=
  match verbatim? s with
  | some (text, rest) => some (verbatim text, rest)
  | none => plain? s

theorem plain?_append {s rest : List Char} {p : Piece} (h : plain? s = some (p, rest)) :
    p.text ++ rest = s := by
  unfold plain? at h
  split at h
  · cases h
  · cases h; rfl
  · split at h <;> cases h <;> simp [text, List.takeWhile_append_dropWhile]
  · cases h; rfl

theorem first?_append {s rest : List Char} {p : Piece} (h : first? s = some (p, rest)) :
    p.text ++ rest = s := by
  unfold first? at h
  split at h
  · next found => cases h; exact verbatim?_append found
  · exact plain?_append h

theorem plain?_text_ne_nil {s rest : List Char} {p : Piece} (h : plain? s = some (p, rest)) :
    p.text ≠ [] := by
  unfold plain? at h
  split at h
  · cases h
  · cases h; simp [text]
  · split at h <;> cases h <;> simp [text]
  · cases h; simp [text]

theorem first?_text_ne_nil {s rest : List Char} {p : Piece} (h : first? s = some (p, rest)) :
    p.text ≠ [] := by
  unfold first? at h
  split at h
  · next found => cases h; exact verbatim?_ne_nil found
  · exact plain?_text_ne_nil h

theorem first?_length {s rest : List Char} {p : Piece} (h : first? s = some (p, rest)) :
    rest.length < s.length := by
  have length := congrArg List.length (first?_append h)
  have nonempty := List.length_pos_iff.2 (first?_text_ne_nil h)
  rw [List.length_append] at length
  omega

end Piece

/-- The pieces of a statement. -/
def pieces (s : List Char) : List Piece :=
  match _h : Piece.first? s with
  | none => []
  | some (piece, rest) => piece :: pieces rest
termination_by s.length
decreasing_by exact Piece.first?_length _h

/-- A statement with positional placeholders, and the values they stand for in order. -/
structure Expansion where
  sql : String
  values : List Value
deriving DecidableEq, Repr

/-- The name of a placeholder that no value is bound to. -/
structure Unbound where
  name : String
deriving DecidableEq, Repr

/-- Expands pieces of which the first placeholder has the given number. -/
def expandPieces (params : Params) (render : Nat → Value → String) :
    Nat → List Piece → Except Unbound (List Char × List Value)
  | _, [] => .ok ([], [])
  | number, .placeholder name :: rest =>
    match params.get? (String.ofList name) with
    | none => .error ⟨String.ofList name⟩
    | some value =>
      match expandPieces params render (number + 1) rest with
      | .error unbound => .error unbound
      | .ok (text, values) => .ok ((render number value).toList ++ text, value :: values)
  | number, piece :: rest =>
    match expandPieces params render number rest with
    | .error unbound => .error unbound
    | .ok (text, values) => .ok (piece.text ++ text, values)

/-- Replaces the placeholders of a statement, the n-th by what `render` makes of n and its value. -/
def expand (sql : String) (params : Params) (render : Nat → Value → String) :
    Except Unbound Expansion :=
  match expandPieces params render 1 (pieces sql.toList) with
  | .error unbound => .error unbound
  | .ok (text, values) => .ok ⟨String.ofList text, values⟩

end NamedSql.Sql
