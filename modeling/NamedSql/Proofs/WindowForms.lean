import NamedSql.Proofs.IntegerRounding
import NamedSql.Proofs.JsonIntegers
import NamedSql.Proofs.PageWindow

/-! The window of a listing, asked for in numbers and in texts. Either way an integer that fits 64 bits with a
sign asks for the same window. A greater one is cut to the greatest of these as a number, but as a text it is
no such integer and read as zero. For a count this makes no difference, since the page is full for one that is
too great and for none at all; for a start it does. -/
namespace NamedSql.WindowForms
open IntegerRounding JsonIntegers RequestIntegers

variable {op : Operation} {name : String} {n : Int} {number text : Request}

/-- Whether of two requests the first gives an integer as a number, and the second gives it as its text
between blanks. -/
structure BothWays (name : String) (n : Int) (number text : Request) : Prop where
  number : number.get? name = some (.ofInt n)
  text : ∃ before behind : List Char, (∀ c ∈ before, Text.isBlank c = true) ∧
    (∀ c ∈ behind, Text.isBlank c = true) ∧
    text.get? name = some (.text (String.ofList (before ++ ((toString n).toList ++ behind))))

/-- A number that is too great is cut to the greatest integer with a sign. -/
theorem int_of_great {k : Nat} {request : Request} (least : twoTo 63 ≤ k) (most : k < twoTo 64)
    (given : request.get? name = some (.ofInt k)) : request.int name = Int64.maxValue := by
  have rounded : twoTo 63 ≤ Binary64.roundDiv k (twoTo 11) * twoTo 11 :=
    twoTo_le_rounded (i := 52) (j := 11) least
  rw [int_of_number given, if_neg (not_fitsBits least)]
  exact toInt64_of_hasValue (ofInt_hasValue least most (by omega)) rounded

theorem int_signed (both : BothWays name n number text) (fits : fitsBits 64 n = true) :
    number.int name = text.int name := by
  obtain ⟨before, behind, front, back, given⟩ := both.text
  rw [int_of_number both.number, int_of_text front back given, if_pos fits, if_pos fits]

theorem int_unsigned {k : Nat} (both : BothWays name k number text) (least : twoTo 63 ≤ k)
    (most : k < twoTo 64) : number.int name = Int64.maxValue ∧ text.int name = 0 := by
  obtain ⟨before, behind, front, back, given⟩ := both.text
  constructor
  · exact int_of_great least most both.number
  · rw [int_of_text front back given, if_neg (not_fitsBits least)]

/-- A count too great and one too small give the same window. -/
theorem plan_beyond (start limit : Int64) :
    Page.plan start Int64.maxValue limit = Page.plan start 0 limit := by
  have none : ¬((1 : Int64) ≤ 0 ∧ (0 : Int64) ≤ Page.size limit) := fun within =>
    absurd within.1 (by decide)
  rw [Page.plan, Page.plan, if_neg none]
  split
  · rename_i within
    have greatest : Page.size limit ≤ Int64.maxValue := Int64.le_maxValue _
    rw [Int64.le_antisymm within.2 greatest]
  · rfl

/-- Whether two requests ask for one count: it is read alike, or it is given in both ways. -/
def SameCount (number text : Request) : Prop :=
  number.int "count" = text.int "count" ∨ ∃ m, Carried m ∧ BothWays "count" m number text

theorem plan_sameCount (same : SameCount number text) (start limit : Int64) :
    Page.plan start (number.int "count") limit = Page.plan start (text.int "count") limit := by
  rcases same with alike | ⟨m, carried, both⟩
  · rw [alike]
  · by_cases signed : m < (twoTo 63 : Int)
    · rw [int_signed both (carried.fits signed)]
    · obtain ⟨k, rfl, least, most⟩ := carried.unsigned (Int.not_lt.mp signed)
      obtain ⟨greatest, zero⟩ := int_unsigned both least most
      rw [greatest, zero, plan_beyond]

/-- How the windows of two requests compare that give one integer in both ways. -/
structure Compares (op : Operation) (n : Int) (number text : Request) : Prop where
  count : BothWays "count" n number text → number.int "startIndex" = text.int "startIndex" →
    op.page number = op.page text
  start : BothWays "startIndex" n number text → SameCount number text → n < (twoTo 63 : Int) →
    op.page number = op.page text
  beyond : BothWays "startIndex" n number text → SameCount number text → (twoTo 63 : Int) ≤ n →
    op.page number = ⟨Int64.maxValue, (op.page text).count⟩ ∧ (op.page text).start = 0

/-- **Numbers and texts ask for the same windows.** This holds for every operation and of every integer that
JSON carries, except that a start beyond 64 bits with a sign is cut to the greatest of these as a number, and
read as zero as a text. -/
theorem windows_compare (op : Operation) (number text : Request) (carried : Carried n) :
    Compares op n number text := by
  refine ⟨?_, ?_, ?_⟩
  · intro both alike
    have same : SameCount number text := Or.inr ⟨n, carried, both⟩
    rw [Operation.page, Operation.page, alike, plan_sameCount same]
  · intro both same signed
    rw [Operation.page, Operation.page, int_signed both (carried.fits signed), plan_sameCount same]
  · intro both same beyond
    obtain ⟨k, rfl, least, most⟩ := carried.unsigned beyond
    obtain ⟨greatest, zero⟩ := int_unsigned both least most
    rw [Operation.page, Operation.page, greatest, zero, plan_sameCount same]
    exact ⟨rfl, rfl⟩

/-- A request for a start just beyond the signed integers, as a number. -/
def numberStart : Request := Request.empty.insert "startIndex" (.ofInt 9223372036854775808)

/-- A request for the same start as a text. -/
def textStart : Request := Request.ofPairs [("startIndex", " 9223372036854775808 ")]

theorem starts_bothWays : BothWays "startIndex" 9223372036854775808 numberStart textStart where
  number := rfl
  text := by
    have blank : ∀ c ∈ [' '], Text.isBlank c = true := by
      intro c member
      rw [List.mem_singleton.mp member]
      rfl
    exact ⟨[' '], [' '], blank, blank, rfl⟩

theorem starts_compared : Carried 9223372036854775808 ∧
    BothWays "startIndex" 9223372036854775808 numberStart textStart ∧
    SameCount numberStart textStart ∧
    Compares (.listing "notes" "SELECT id FROM notes") 9223372036854775808 numberStart textStart := by
  have carried : Carried 9223372036854775808 := carried_iff.mpr (by decide)
  exact ⟨carried, starts_bothWays, Or.inl rfl, windows_compare _ _ _ carried⟩

/-- As a number such a start is beyond every row; as a text it is that of the first page. -/
theorem starts_differ : Carried 9223372036854775808 ∧
    BothWays "startIndex" 9223372036854775808 numberStart textStart ∧
    (Operation.listing "notes" "SELECT id FROM notes").page numberStart = ⟨Int64.maxValue, 16⟩ ∧
    (Operation.listing "notes" "SELECT id FROM notes").page textStart = ⟨0, 16⟩ ∧
    (Operation.listing "notes" "SELECT id FROM notes").page numberStart ≠
      (Operation.listing "notes" "SELECT id FROM notes").page textStart := by
  refine ⟨carried_iff.mpr (by decide), starts_bothWays, ?_, ?_, ?_⟩
  · decide +kernel
  · decide +kernel
  · decide +kernel

end NamedSql.WindowForms
