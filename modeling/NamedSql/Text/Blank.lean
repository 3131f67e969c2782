/-!
Blank characters are those with the Unicode property White_Space. A text is trimmed of blanks
before it is tested for emptiness, read as a number or extended by another clause.
-/
namespace NamedSql.Text

/-- The Unicode property White_Space. -/
def isBlank (c : Char) : Bool :=
  let n := c.toNat
  (9 ≤ n && n ≤ 13) || n == 0x20 || n == 0x85 || n == 0xA0 || n == 0x1680 ||
    (0x2000 ≤ n && n ≤ 0x200A) || n == 0x2028 || n == 0x2029 || n == 0x202F || n == 0x205F ||
    n == 0x3000

/-- A text without the blanks it begins with. -/
def trimStart (s : List Char) : List Char := s.dropWhile isBlank

/-- A text without the blanks it ends with. -/
def trimEnd (s : List Char) : List Char := (s.reverse.dropWhile isBlank).reverse

/-- A text without the blanks at either end. -/
def trim (s : List Char) : List Char := trimEnd (trimStart s)

/-- Nothing but blanks. -/
def isAllBlank (s : String) : Bool := s.toList.all isBlank

@[simp] theorem trimEnd_nil : trimEnd [] = [] := rfl

end NamedSql.Text
