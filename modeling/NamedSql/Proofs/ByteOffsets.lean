import NamedSql.Sql.ByteScan
import NamedSql.Proofs.StatementParts
import NamedSql.Proofs.StatementPieces

/-! Statements can be scanned by the offsets of their bytes. What is looked for is ASCII, so a length that
is counted by hand ends where a character does, and every turn of a scan takes at least one. Scanned so, a
statement is cut at the ends of its pieces or parts and at no other byte, and what comes of it is what the
characters alone give. -/
namespace NamedSql.ByteOffsets
open Sql VerbatimBoundaries StatementParts StatementPieces Text

variable {α ε σ : Type} {s rest front : List Char}

/-- Whether offsets are places at which a text may be cut, one after the other. -/
structure Advances (sql : String) (offsets : List Nat) : Prop where
  increasing : (0 :: offsets).Pairwise (· < ·)
  boundary : ∀ offset ∈ offsets, (⟨offset⟩ : String.Pos.Raw).IsValid sql
  inside : ∀ offset ∈ offsets, offset ≤ sql.utf8ByteSize

/-- What a scan comes to: it cuts the text at such places only, to its very end unless it gives up, and has
a result. -/
def Scans (sql : String) (scan : Option (List Nat × Except ε σ)) (result : Except ε σ) : Prop :=
  ∃ offsets, scan = some (offsets, result) ∧ Advances sql offsets ∧
    ∀ state, result = .ok state → (0 :: offsets).getLast? = some sql.utf8ByteSize

/-- Whether a text is so many things one after the other, each found where it begins with the length that
it has. -/
inductive Itemized (found? : Char → List Char → Option (α × Nat)) (text : α → List Char) :
    List Char → List α → Prop
  | nil : Itemized found? text [] []
  | cons {c : Char} {s rest : List Char} {item : α} {items : List α}
    (found : found? c s = some (item, byteSize (text item))) (nonempty : text item ≠ [])
    (cut : text item ++ rest = c :: s) (later : Itemized found? text rest items) :
    Itemized found? text (c :: s) (item :: items)

/-- The offsets behind things that begin at an offset. -/
def ends (text : α → List Char) : Nat → List α → List Nat
  | _, [] => []
  | offset, item :: items =>
    (offset + byteSize (text item)) :: ends text (offset + byteSize (text item)) items

/-- The things that a visit takes before it gives up. -/
def taken (visit : σ → α → Except ε σ) : σ → List α → List α
  | _, [] => []
  | state, item :: items =>
    match visit state item with
    | .error _ => []
    | .ok state => item :: taken visit state items

theorem through_byteSize {c : Char} (ascii : c.utf8Size = 1) (s : List Char) :
    byteSize (through c s).1 = (byteIndex? (· == c) s).elim (byteSize s) (· + 1) := by
  induction s with
  | nil => rfl
  | cons d s ih =>
    rw [through_cons, byteIndex?]
    by_cases same : d = c
    · subst same
      simp [byteSize, ascii]
    · rw [if_neg same, if_neg (by simpa using same), byteSize, ih]
      cases byteIndex? (· == c) s with
      | none => rfl
      | some index => exact (Nat.add_assoc ..).symm

theorem throughClose_byteSize (s : List Char) :
    byteSize (throughClose s).1 = (byteIndexOf? ['*', '/'] s).elim (byteSize s) (· + 2) := by
  fun_induction throughClose s with
  | case1 => rfl
  | case2 s => simp [byteIndexOf?, byteSize, List.isPrefixOf, Char.utf8Size]
  | case3 c s passing ih =>
    have first : ¬['*', '/'].isPrefixOf (c :: s) = true := by
      intro closing
      obtain ⟨behind, same⟩ := List.isPrefixOf_iff_prefix.mp closing
      obtain ⟨star, slash⟩ := List.cons.inj same
      exact passing behind star.symm slash.symm
    rw [byteIndexOf?, if_neg first, byteSize, ih]
    cases byteIndexOf? ['*', '/'] s with
    | none => rfl
    | some index => exact (Nat.add_assoc ..).symm

theorem nameLength_eq (s : List Char) :
    ByteScan.nameLength s = byteSize (s.takeWhile isNameChar) := by
  unfold ByteScan.nameLength
  induction s with
  | nil => rfl
  | cons c s ih =>
    rw [byteIndex?]
    cases named : isNameChar c with
    | false => simp [named, byteSize]
    | true =>
      rw [if_neg (by simp), List.takeWhile_cons_of_pos named, byteSize, byteSize, ← ih]
      cases byteIndex? (fun c => !isNameChar c) s with
      | none => rfl
      | some index => rfl

/-- A quote takes one byte, and so does the one that closes the literal. -/
private theorem quotedLength?_eq {quote : Char} (ascii : quote.utf8Size = 1) (s : List Char) :
    ByteScan.quotedLength? quote (quote :: s) = some (byteSize (quote :: (through quote s).1)) := by
  have inside : dropBytes? 1 (quote :: s) = some s := by
    have cut := dropBytes?_append [quote] s
    rwa [byteSize, byteSize, ascii] at cut
  have closed := through_byteSize ascii s
  simp only [ByteScan.quotedLength?, inside, Option.bind_eq_bind, Option.bind_some, byteSize, ascii,
    closed]
  cases byteIndex? (· == quote) s with
  | none => rfl
  | some index => exact congrArg some (by simp only [Option.elim]; omega)

/-- The two dashes of a comment are looked through as well. -/
private theorem lineLength_eq (s : List Char) :
    (byteIndex? (· == '\n') ('-' :: '-' :: s)).elim (byteSize ('-' :: '-' :: s)) (· + 1) =
      byteSize ('-' :: '-' :: (through '\n' s).1) := by
  have dash : '-'.utf8Size = 1 := rfl
  have closed := through_byteSize (c := '\n') rfl s
  simp only [byteIndex?, byteSize, dash, closed]
  cases byteIndex? (· == '\n') s with
  | none => rfl
  | some index => simp; omega

private theorem blockLength_eq (s : List Char) :
    (byteIndexOf? ['*', '/'] s).elim (byteSize ('/' :: '*' :: s)) (· + 4) =
      byteSize ('/' :: '*' :: (throughClose s).1) := by
  have slash : '/'.utf8Size = 1 := rfl
  have star : '*'.utf8Size = 1 := rfl
  simp only [byteSize, slash, star, throughClose_byteSize]
  cases byteIndexOf? ['*', '/'] s with
  | none => rfl
  | some index => simp only [Option.elim]; omega

/-- The length of a literal or comment is found without a cut within a character. -/
theorem spanLength?_eq (s : List Char) :
    ByteScan.spanLength? s = some ((verbatim? s).map fun cut => byteSize cut.1) := by
  unfold ByteScan.spanLength?
  split
  · rw [quotedLength?_eq rfl]
    rfl
  · rw [quotedLength?_eq rfl]
    rfl
  · rw [lineLength_eq]
    rfl
  · rename_i rest
    have inside : dropBytes? 2 ('/' :: '*' :: rest) = some rest := dropBytes?_append ['/', '*'] rest
    rw [inside]
    exact congrArg (fun length => some (some length)) (blockLength_eq rest)
  · rename_i single double line block
    rw [verbatim?]
    · rfl
    · exact single
    · exact double
    · exact line
    · exact block

/-- A literal or comment is cut out by its length. -/
private theorem takeBytes?_verbatim {text : List Char} (found : verbatim? s = some (text, rest)) :
    takeBytes? (byteSize text) s = some text := by
  have cut := takeBytes?_append text rest
  rwa [verbatim?_append found] at cut

private theorem dropBytes?_single {c : Char} (ascii : c.utf8Size = 1) (s : List Char) :
    dropBytes? 1 (c :: s) = some s := by
  have cut := dropBytes?_append [c] s
  rwa [byteSize, byteSize, ascii] at cut

theorem takeBytes?_name (s : List Char) :
    takeBytes? (ByteScan.nameLength s) s = some (s.takeWhile isNameChar) := by
  have cut := takeBytes?_append (s.takeWhile isNameChar) (s.dropWhile isNameChar)
  rwa [List.takeWhile_append_dropWhile, ← nameLength_eq] at cut

theorem dropBytes?_name (s : List Char) :
    dropBytes? (ByteScan.nameLength s) s = some (s.dropWhile isNameChar) := by
  have cut := dropBytes?_append (s.takeWhile isNameChar) (s.dropWhile isNameChar)
  rwa [List.takeWhile_append_dropWhile, ← nameLength_eq] at cut

private theorem spanLength?_closed {c : Char} (closed : opens c s.head? = false) :
    ByteScan.spanLength? (c :: s) = some none := by
  rw [spanLength?_eq, verbatim?_cons_none.mpr closed]
  rfl

/-- A colon opens no literal or comment, and the text goes on behind its one byte. -/
private theorem piece?_colon (s : List Char) : ByteScan.piece? ':' s =
    if s.head? = some ':' then some (.doubleColon, 2)
    else if s.head?.any isNameStart then
      some (.placeholder (s.takeWhile isNameChar), 1 + ByteScan.nameLength s)
    else some (.other ':', 1) := by
  have closed : opens ':' s.head? = false := by simp [opens]
  have after : dropBytes? 1 (':' :: s) = some s := dropBytes?_single rfl s
  simp only [ByteScan.piece?, spanLength?_closed closed, after, takeBytes?_name, ↓reduceIte,
    Option.bind_eq_bind, Option.bind_some]
  split
  · rfl
  · split <;> rfl

theorem pieces_itemized (s : List Char) : Itemized ByteScan.piece? Piece.text s (pieces s) := by
  induction s using pieces_induction with
  | nil =>
    rw [pieces_nil]
    exact .nil
  | verbatim s text rest found ih =>
    rw [pieces_verbatim found]
    cases s with
    | nil => cases found
    | cons c s =>
      refine .cons ?_ (verbatim?_ne_nil found) (verbatim?_append found) ih
      simp [ByteScan.piece?, spanLength?_eq, found, takeBytes?_verbatim found, Piece.text]
  | doubleColon rest ih =>
    rw [pieces_doubleColon]
    refine .cons ?_ (by simp [Piece.text]) rfl ih
    rw [piece?_colon]
    rfl
  | placeholder c name rest start named stop ih =>
    rw [pieces_named start named stop]
    refine .cons ?_ (by simp [Piece.text]) rfl ih
    have run : (c :: (name ++ rest)).takeWhile isNameChar = c :: name := by
      have ended : rest.takeWhile isNameChar = [] := by cases rest <;> simp_all
      rw [List.takeWhile_cons_of_pos (isNameChar_of_start start),
        List.takeWhile_append_of_pos named, ended, List.append_nil]
    have plain : c ≠ ':' := (nameChar_plain (isNameChar_of_start start) none).2
    rw [piece?_colon, nameLength_eq, run, if_neg (by simpa using plain),
      if_pos (by simpa using start)]
    rfl
  | colon rest lone ih =>
    rw [pieces_loneColon lone]
    refine .cons ?_ (by simp [Piece.text]) rfl ih
    have alone : ¬rest.head? = some ':' ∧ ¬rest.head?.any isNameStart = true := by
      cases next : rest.head? with
      | none => simp
      | some d => simpa [next, isLoneColon] using lone
    rw [piece?_colon, if_neg alone.1, if_neg alone.2]
    rfl
  | other c rest closed plain ih =>
    rw [pieces_other closed plain]
    refine .cons ?_ (by simp [Piece.text]) rfl ih
    simp [ByteScan.piece?, spanLength?_closed closed, plain, Piece.text, byteSize]

/-- What follows an opening brace is a reference if a name and a closing brace do. -/
private theorem part?_brace (s : List Char) : ByteScan.part? '\x7b' s =
    if 0 < ByteScan.nameLength s ∧ (s.dropWhile isNameChar).head? = some '\x7d' then
      some (.reference (s.takeWhile isNameChar), ByteScan.nameLength s + 2)
    else some (.other '\x7b', 1) := by
  have closed : opens '\x7b' s.head? = false := by simp [opens]
  have inner : dropBytes? 1 ('\x7b' :: s) = some s := dropBytes?_single rfl s
  simp only [ByteScan.part?, spanLength?_closed closed, inner, takeBytes?_name, dropBytes?_name,
    ↓reduceIte, Option.bind_eq_bind, Option.bind_some]
  by_cases named : 0 < ByteScan.nameLength s
  · by_cases ended : (s.dropWhile isNameChar).head? = some '\x7d'
    · rw [if_pos named, if_pos ended, if_pos ⟨named, ended⟩]
      rfl
    · rw [if_pos named, if_neg ended, if_neg fun both => ended both.2]
      rfl
  · rw [if_neg named, if_neg fun both => named both.1]
    rfl

private theorem byteSize_pos (nonempty : s ≠ []) : 0 < byteSize s := by
  cases s with
  | nil => exact absurd rfl nonempty
  | cons c s => exact Nat.add_pos_left c.utf8Size_pos _

theorem parts_itemized (s : List Char) : Itemized ByteScan.part? Part.text s (parts s) := by
  induction s using parts_induction with
  | nil =>
    rw [parts_nil]
    exact .nil
  | verbatim s text rest found ih =>
    rw [parts_verbatim found]
    cases s with
    | nil => cases found
    | cons c s =>
      refine .cons ?_ (verbatim?_ne_nil found) (verbatim?_append found) ih
      simp [ByteScan.part?, spanLength?_eq, found, takeBytes?_verbatim found, Part.text]
  | reference name rest named ih =>
    rw [parts_reference named]
    refine .cons ?_ (by simp [Part.text]) (by simp [Part.text]) ih
    obtain ⟨run, behind⟩ := name_cut named.2 (by decide : isNameChar '\x7d' = false) rest
    rw [part?_brace, nameLength_eq, run, behind, if_pos ⟨byteSize_pos named.1, rfl⟩]
    have brace : '\x7b'.utf8Size = 1 := rfl
    have closing : '\x7d'.utf8Size = 1 := rfl
    simp [Part.text, byteSize, byteSize_append, brace, closing]
    omega
  | other c rest closed unreferenced ih =>
    rw [parts_other closed unreferenced]
    refine .cons ?_ (by simp [Part.text]) rfl ih
    by_cases brace : c = '\x7b'
    · subst brace
      rw [part?_brace, if_neg]
      · rfl
      · rintro ⟨named, ended⟩
        obtain ⟨tail, cut⟩ := List.head?_eq_some_iff.mp ended
        have name : IsName (rest.takeWhile isNameChar) := by
          refine ⟨?_, fun c member => List.mem_takeWhile_imp member⟩
          intro empty
          rw [nameLength_eq, empty] at named
          exact Nat.lt_irrefl 0 named
        have whole := List.takeWhile_append_dropWhile (p := isNameChar) (l := rest)
        rw [cut] at whole
        rw [reference?_eq_some.mpr ⟨_, name, whole.symm, rfl⟩] at unreferenced
        cases unreferenced rfl
    · simp [ByteScan.part?, spanLength?_closed closed, brace, Part.text, byteSize]

/-- **A scan goes from thing to thing.** It is cut behind each that the visit takes, and nowhere else. -/
theorem scanFrom_itemized {found? : Char → List Char → Option (α × Nat)} {text : α → List Char}
    {items : List α} (itemized : Itemized found? text rest items) (visit : σ → α → Except ε σ)
    (front : List Char) (offsets : List Nat) (state : σ) :
    ByteScan.scanFrom found? visit (front ++ rest) (byteSize front) offsets state =
      some (offsets ++ ends text (byteSize front) (taken visit state items),
        items.foldlM visit state) := by
  induction itemized generalizing front offsets state with
  | nil =>
    rw [ByteScan.scanFrom_end (dropBytes?_append front [])]
    simp [taken, ends]
    rfl
  | cons found nonempty cut later ih =>
    rename_i c s rest item items
    rw [ByteScan.scanFrom_found (dropBytes?_append front _) found (byteSize_pos nonempty), taken,
      List.foldlM_cons]
    cases visited : visit state item with
    | error e => simp [ends, bind, Except.bind]
    | ok state =>
      have next := ih (front ++ text item) (offsets ++ [byteSize front + byteSize (text item)]) state
      rw [byteSize_append, List.append_assoc, cut] at next
      simp only [next, ends]
      simp [bind, Except.bind]

theorem taken_initial (visit : σ → α → Except ε σ) (state : σ) (items : List α) :
    taken visit state items <+: items := by
  induction items generalizing state with
  | nil => exact List.prefix_refl []
  | cons item items ih =>
    rw [taken]
    split
    · exact List.nil_prefix
    · exact (List.prefix_cons_inj item).mpr (ih _)

/-- A visit that does not give up takes everything. -/
theorem taken_all {visit : σ → α → Except ε σ} {state last : σ} {items : List α}
    (visited : items.foldlM visit state = .ok last) : taken visit state items = items := by
  induction items generalizing state with
  | nil => rfl
  | cons item items ih =>
    rw [List.foldlM_cons] at visited
    rw [taken]
    cases first : visit state item with
    | error e =>
      rw [first] at visited
      cases visited
    | ok next =>
      rw [first] at visited
      simp only [ih visited]

theorem itemized_text {found? : Char → List Char → Option (α × Nat)} {text : α → List Char}
    {items : List α} (itemized : Itemized found? text s items) :
    items.flatMap text = s ∧ ∀ item ∈ items, text item ≠ [] := by
  induction itemized with
  | nil => exact ⟨rfl, by simp⟩
  | cons found nonempty cut later ih =>
    exact ⟨by rw [List.flatMap_cons, ih.1, cut], List.forall_mem_cons.mpr ⟨nonempty, ih.2⟩⟩

theorem byteSize_eq (s : List Char) : byteSize s = (String.ofList s).utf8ByteSize := by
  induction s with
  | nil => rfl
  | cons c s ih =>
    have first : String.ofList (c :: s) = String.singleton c ++ String.ofList s := by
      rw [String.singleton_eq_ofList, ← String.ofList_append]
      rfl
    rw [byteSize, ih, first, String.utf8ByteSize_append, String.utf8ByteSize_singleton]

/-- A text may be cut behind whatever it begins with. -/
theorem boundary_of_append {sql : String} (whole : sql.toList = front ++ rest) :
    (⟨byteSize front⟩ : String.Pos.Raw).IsValid sql := by
  rw [String.Pos.Raw.isValid_iff_exists_append]
  refine ⟨String.ofList front, String.ofList rest, ?_, ?_⟩
  · rw [← String.ofList_append, ← whole, String.ofList_toList]
  · rw [byteSize_eq]
    rfl

private theorem lt_of_mem_ends {text : α → List Char} {items : List α}
    (nonempty : ∀ item ∈ items, text item ≠ []) {offset : Nat} :
    ∀ later ∈ ends text offset items, offset < later := by
  induction items generalizing offset with
  | nil => simp [ends]
  | cons item items ih =>
    obtain ⟨first, others⟩ := List.forall_mem_cons.mp nonempty
    have positive := byteSize_pos first
    refine List.forall_mem_cons.mpr ⟨by omega, fun later member => ?_⟩
    have behind := ih others later member
    omega

theorem ends_increase {text : α → List Char} {items : List α}
    (nonempty : ∀ item ∈ items, text item ≠ []) (offset : Nat) :
    (offset :: ends text offset items).Pairwise (· < ·) := by
  induction items generalizing offset with
  | nil => exact List.pairwise_singleton _ _
  | cons item items ih =>
    obtain ⟨_, others⟩ := List.forall_mem_cons.mp nonempty
    exact List.pairwise_cons.mpr ⟨lt_of_mem_ends nonempty, ih others _⟩

theorem ends_last {text : α → List Char} {items : List α} (offset : Nat) :
    (offset :: ends text offset items).getLast? =
      some (offset + byteSize (items.flatMap text)) := by
  induction items generalizing offset with
  | nil => rfl
  | cons item items ih =>
    rw [ends, List.getLast?_cons_cons, ih, List.flatMap_cons, byteSize_append, Nat.add_assoc]

theorem ends_boundaries {sql : String} {text : α → List Char} {items : List α}
    (whole : sql.toList = front ++ (items.flatMap text ++ rest)) :
    ∀ offset ∈ ends text (byteSize front) items, (⟨offset⟩ : String.Pos.Raw).IsValid sql := by
  induction items generalizing front with
  | nil => simp [ends]
  | cons item items ih =>
    rw [List.flatMap_cons, List.append_assoc, ← List.append_assoc] at whole
    have later := ih whole
    rw [byteSize_append] at later
    refine List.forall_mem_cons.mpr ⟨?_, later⟩
    have first := boundary_of_append whole
    rwa [byteSize_append] at first

/-- A scan of a whole text keeps to places at which it may be cut. -/
theorem scans_itemized {sql : String} {found? : Char → List Char → Option (α × Nat)}
    {text : α → List Char} {items : List α} (itemized : Itemized found? text sql.toList items)
    (visit : σ → α → Except ε σ) (state : σ) :
    Scans sql (ByteScan.scanFrom found? visit sql.toList 0 [] state) (items.foldlM visit state) := by
  obtain ⟨whole, nonempty⟩ := itemized_text itemized
  obtain ⟨later, split⟩ := taken_initial visit state items
  have boundaries : ∀ offset ∈ ends text 0 (taken visit state items),
      (⟨offset⟩ : String.Pos.Raw).IsValid sql := by
    have cut : sql.toList =
        [] ++ ((taken visit state items).flatMap text ++ later.flatMap text) := by
      rw [List.nil_append, ← List.flatMap_append, split, whole]
    exact ends_boundaries cut
  refine ⟨_, scanFrom_itemized itemized visit [] [] state, ⟨?_, boundaries, ?_⟩, ?_⟩
  · refine ends_increase (fun item member => nonempty item ?_) 0
    exact (taken_initial visit state items).subset member
  · exact fun offset member => (boundaries offset member).le_utf8ByteSize
  · intro last visited
    have size : byteSize sql.toList = sql.utf8ByteSize := by rw [byteSize_eq, String.ofList_toList]
    rw [taken_all visited]
    exact (ends_last 0).trans (by rw [whole, size, Nat.zero_add])

/-- Writing pieces one behind the other expands them. -/
theorem foldlM_writePiece (params : Params) (render : Nat → Value → String) (ps : List Piece)
    (written : List Char × List Value) :
    ps.foldlM (ByteScan.writePiece params render) written =
      (expandPieces params render (written.2.length + 1) ps).map fun expanded =>
        (written.1 ++ expanded.1, written.2 ++ expanded.2) := by
  induction ps generalizing written with
  | nil => simp [expandPieces, Except.map, pure, Except.pure]
  | cons piece ps ih =>
    rw [List.foldlM_cons]
    cases piece with
    | placeholder name =>
      rw [ByteScan.writePiece, expandPieces]
      cases params.get? (String.ofList name) with
      | none => rfl
      | some value =>
        simp only [bind, Except.bind, ih, List.length_append, List.length_singleton]
        cases expandPieces params render (written.2.length + 1 + 1) ps with
        | error unbound => rfl
        | ok expanded => simp [Except.map]
    | verbatim _ | doubleColon | other _ =>
      rw [ByteScan.writePiece, expandPieces]
      · simp only [bind, Except.bind, ih]
        cases expandPieces params render (written.2.length + 1) ps with
        | error unbound => rfl
        | ok expanded => simp [Except.map]
      all_goals rintro _ ⟨⟩

/-- Writing parts one behind the other rewrites the references among them. -/
theorem foldlM_writePart (ps : List Part) (written : List Char × List String) :
    ps.foldlM ByteScan.writePart written =
      .ok (written.1 ++ ps.flatMap Part.rewritten, written.2 ++ ps.filterMap referenceName?) := by
  induction ps generalizing written with
  | nil => simp [pure, Except.pure]
  | cons part ps ih =>
    rw [List.foldlM_cons]
    cases part with
    | reference name =>
      simp [ByteScan.writePart, bind, Except.bind, ih, Part.rewritten, referenceName?]
    | verbatim _ | other _ =>
      simp [ByteScan.writePart, bind, Except.bind, ih, Part.rewritten, Part.text, List.filterMap_cons,
        referenceName?]

/-- A literal or comment has a length, and the text may be cut behind it. -/
theorem span_boundary {sql : String} {text : List Char} (found : verbatim? sql.toList = some (text, rest)) :
    1 ≤ byteSize text ∧ byteSize text ≤ sql.utf8ByteSize ∧
      (⟨byteSize text⟩ : String.Pos.Raw).IsValid sql := by
  have boundary := boundary_of_append (verbatim?_append found).symm
  exact ⟨byteSize_pos (verbatim?_ne_nil found), boundary.le_utf8ByteSize, boundary⟩

/-- **Byte offsets keep to the characters.** Whatever characters a statement has, the length of a literal or
comment ends where one of them does; and scanning by offsets ends, cuts the statement only between
characters and each time further on, and gives what the characters alone do. -/
theorem offsets_keep_to_characters (sql : String) :
    (∃ span, ByteScan.spanLength? sql.toList = some span ∧
      span = (verbatim? sql.toList).map (fun cut => byteSize cut.1) ∧
      ∀ length, span = some length → 1 ≤ length ∧ length ≤ sql.utf8ByteSize ∧
        (⟨length⟩ : String.Pos.Raw).IsValid sql) ∧
    Scans sql (ByteScan.rewrite sql) (.ok ((rewriteReferences sql).toList, references sql)) ∧
    ∀ params render, Scans sql (ByteScan.expand sql params render)
      ((expand sql params render).map fun e => (e.sql.toList, e.values)) := by
  refine ⟨⟨_, spanLength?_eq sql.toList, rfl, fun length same => ?_⟩, ?_, fun params render => ?_⟩
  · obtain ⟨⟨text, rest⟩, found, rfl⟩ := Option.map_eq_some_iff.mp same
    exact span_boundary found
  · have scans := scans_itemized (parts_itemized sql.toList) ByteScan.writePart ([], [])
    rw [foldlM_writePart] at scans
    rw [rewriteReferences, String.toList_ofList, references_eq]
    exact scans
  · have scans := scans_itemized (pieces_itemized sql.toList) (ByteScan.writePiece params render) ([], [])
    rw [foldlM_writePiece] at scans
    have same : (expand sql params render).map (fun e => (e.sql.toList, e.values)) =
        (expandPieces params render 1 (pieces sql.toList)).map
          fun expanded => ([] ++ expanded.1, [] ++ expanded.2) := by
      rw [expand]
      cases expandPieces params render 1 (pieces sql.toList) with
      | error unbound => rfl
      | ok expanded => simp [Except.map]
    rw [same]
    exact scans

example : ByteScan.spanLength? "'\u00e9'x".toList = some (some 4) := by decide

end NamedSql.ByteOffsets
