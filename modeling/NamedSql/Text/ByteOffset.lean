/-!
Texts counted in the bytes of their UTF-8 form. A text can be cut between characters only: a cut after so
many bytes that a character would be divided, or after more than there are, gives nothing.
-/
namespace NamedSql.Text

/-- How many bytes a text takes. -/
def byteSize : List Char → Nat
  | [] => 0
  | c :: s => c.utf8Size + byteSize s

/-- A text from a byte on. -/
def dropBytes? : Nat → List Char → Option (List Char)
  | 0, s => some s
  | _ + 1, [] => none
  | n + 1, c :: s => if c.utf8Size ≤ n + 1 then dropBytes? (n + 1 - c.utf8Size) s else none

/-- A text up to a byte. -/
def takeBytes? : Nat → List Char → Option (List Char)
  | 0, _ => some []
  | _ + 1, [] => none
  | n + 1, c :: s =>
    if c.utf8Size ≤ n + 1 then (takeBytes? (n + 1 - c.utf8Size) s).map (c :: ·) else none

/-- The byte at which the first character of a kind begins. -/
def byteIndex? (kind : Char → Bool) : List Char → Option Nat
  | [] => none
  | c :: s => if kind c then some 0 else (byteIndex? kind s).map (c.utf8Size + ·)

/-- The byte at which `part` first begins. -/
def byteIndexOf? (part : List Char) : List Char → Option Nat
  | [] => if part.isEmpty then some 0 else none
  | c :: s =>
    if part.isPrefixOf (c :: s) then some 0 else (byteIndexOf? part s).map (c.utf8Size + ·)

theorem byteSize_append (front rest : List Char) :
    byteSize (front ++ rest) = byteSize front + byteSize rest := by
  induction front with
  | nil => simp [byteSize]
  | cons c front ih => simp [byteSize, ih, Nat.add_assoc]

private theorem byteSize_cons (c : Char) (s : List Char) :
    ∃ n, byteSize (c :: s) = n + 1 ∧ c.utf8Size ≤ n + 1 ∧ n + 1 - c.utf8Size = byteSize s := by
  have positive := c.utf8Size_pos
  refine ⟨c.utf8Size + byteSize s - 1, ?_, ?_, ?_⟩
  · rw [byteSize]
    omega
  · omega
  · omega

/-- Behind a text another begins. -/
theorem dropBytes?_append (front rest : List Char) :
    dropBytes? (byteSize front) (front ++ rest) = some rest := by
  induction front with
  | nil => cases rest <;> rfl
  | cons c front ih =>
    obtain ⟨n, size, fits, left⟩ := byteSize_cons c front
    rw [size, List.cons_append, dropBytes?, if_pos fits, left, ih]

/-- Where a character begins, a text is not at its end. -/
theorem dropBytes?_lt {n : Nat} {s rest : List Char} {c : Char} (here : dropBytes? n s = some (c :: rest)) :
    n < byteSize s := by
  induction s generalizing n with
  | nil => cases n <;> simp [dropBytes?] at here
  | cons first s ih =>
    have positive := first.utf8Size_pos
    cases n with
    | zero => exact Nat.add_pos_left positive _
    | succ n =>
      rw [dropBytes?] at here
      split at here
      · have later := ih here
        rw [byteSize]
        omega
      · cases here

theorem takeBytes?_append (front rest : List Char) :
    takeBytes? (byteSize front) (front ++ rest) = some front := by
  induction front with
  | nil => cases rest <;> rfl
  | cons c front ih =>
    obtain ⟨n, size, fits, left⟩ := byteSize_cons c front
    rw [size, List.cons_append, takeBytes?, if_pos fits, left, ih]
    rfl

end NamedSql.Text
