import NamedSql.Sql.Verbatim
/-!
References to request values. An operation's statement refers to the value named `n` by writing `n`
between braces, outside literals and comments. Each reference is rewritten to a named placeholder;
every other character stays as it is.
-/
namespace NamedSql.Sql

/-- A part of an operation's statement. -/
inductive Part where
  | verbatim (text : List Char)
  | reference (name : List Char)
  | other (c : Char)
deriving DecidableEq, Repr

namespace Part

/-- The characters of a part as it is written. -/
def text : Part → List Char
  | verbatim text => text
  | reference name => '\x7b' :: name ++ ['\x7d']
  | other c => [c]

/-- The characters of a part with references written as placeholders. -/
def rewritten : Part → List Char
  | verbatim text => text
  | reference name => ':' :: name
  | other c => [c]

/-- The reference that follows an opening brace. -/
def reference? (s : List Char) : Option (Part × List Char) :=
  match s.takeWhile isNameChar, s.dropWhile isNameChar with
  | c :: name, '\x7d' :: rest => some (reference (c :: name), rest)
  | _, _ => none

/-- The part that a text begins with, when that is no literal or comment. -/
def plain? : List Char → Option (Part × List Char)
  | [] => none
  | c :: rest =>
    if c = '\x7b' then
      match reference? rest with
      | some found => some found
      | none => some (other c, rest)
    else some (other c, rest)

/-- The part that a text begins with, and what follows it. -/
def first? (s : List Char) : Option (Part × List Char) :=
  match verbatim? s with
  | some (text, rest) => some (verbatim text, rest)
  | none => plain? s

theorem reference?_append {s rest : List Char} {p : Part} (h : reference? s = some (p, rest)) :
    p.text ++ rest = '\x7b' :: s := by
  unfold reference? at h
  split at h
  · next c name rest' taken dropped =>
    cases h
    have whole := List.takeWhile_append_dropWhile (p := isNameChar) (l := s)
    rw [taken, dropped] at whole
    simp [text, ← whole]
  · cases h

theorem plain?_append {s rest : List Char} {p : Part} (h : plain? s = some (p, rest)) :
    p.text ++ rest = s := by
  unfold plain? at h
  split at h
  · cases h
  · split at h
    · next brace =>
      subst brace
      split at h
      · next found => cases h; exact reference?_append found
      · cases h; rfl
    · cases h; rfl

theorem first?_append {s rest : List Char} {p : Part} (h : first? s = some (p, rest)) :
    p.text ++ rest = s := by
  unfold first? at h
  split at h
  · next found => cases h; exact verbatim?_append found
  · exact plain?_append h

theorem reference?_text_ne_nil {s rest : List Char} {p : Part}
    (h : reference? s = some (p, rest)) : p.text ≠ [] := by
  unfold reference? at h
  split at h <;> cases h
  simp [text]

theorem plain?_text_ne_nil {s rest : List Char} {p : Part} (h : plain? s = some (p, rest)) :
    p.text ≠ [] := by
  unfold plain? at h
  split at h
  · cases h
  · split at h
    · split at h
      · next found => cases h; exact reference?_text_ne_nil found
      · cases h; simp [text]
    · cases h; simp [text]

theorem first?_text_ne_nil {s rest : List Char} {p : Part} (h : first? s = some (p, rest)) :
    p.text ≠ [] := by
  unfold first? at h
  split at h
  · next found => cases h; exact verbatim?_ne_nil found
  · exact plain?_text_ne_nil h

theorem first?_length {s rest : List Char} {p : Part} (h : first? s = some (p, rest)) :
    rest.length < s.length := by
  have length := congrArg List.length (first?_append h)
  have nonempty := List.length_pos_iff.2 (first?_text_ne_nil h)
  rw [List.length_append] at length
  omega

end Part

/-- The parts of an operation's statement. -/
def parts (s : List Char) : List Part :=
  match _h : Part.first? s with
  | none => []
  | some (part, rest) => part :: parts rest
termination_by s.length
decreasing_by exact Part.first?_length _h

/-- The statement with every reference rewritten to a placeholder. -/
def rewriteReferences (sql : String) : String :=
  String.ofList ((parts sql.toList).flatMap Part.rewritten)

/-- The names of the references, one for each, in their order. -/
def references (sql : String) : List String :=
  (parts sql.toList).filterMap fun
    | .reference name => some (String.ofList name)
    | _ => none

/-- The names that are referred to, each once, in the order of their first reference. -/
def referencedNames (sql : String) : List String :=
  (references sql).foldl (fun names name => if name ∈ names then names else names ++ [name]) []

end NamedSql.Sql
