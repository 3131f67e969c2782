import NamedSql.Operation.Registry
import NamedSql.Proofs.NameOrder

/-! What a registry has on offer. Whatever operations are put to it, those it has were all accepted, each
stands under its own name, and they are listed in the order of their names. An operation that is
refused changes nothing, and one that is taken is all that is added. A configuration becomes a registry
exactly where each of its operations is accepted under its key, and otherwise the first that is not
tells why. -/
namespace NamedSql.RegistryInvariant
open NameOrder

variable {r later : Registry} {op : Operation} {defect : Operation.Defect} {warnings : List Warning}

/-- Whether an operation passes its check. -/
def isAccepted (op : Operation) : Bool := op.validate.isOk

/-- The registry after an operation was put to it, whether it was taken or not. -/
def offered (r : Registry) (op : Operation) : Registry := ((Registry.offer op).run r).2

/-- The registry after operations were put to an empty one, in their order. -/
def offeredAll (ops : List Operation) : Registry := ops.foldl offered .empty

/-- A configured operation, named by its key. -/
def named (entry : String × Operation) : Operation := { entry.2 with name := entry.1 }

/-- What the entries of a registry are known to be. -/
structure Kept (r : Registry) : Prop where
  increasing : Increasing r.operations.entries
  own : ∀ entry ∈ r.operations.entries, entry.2.name = entry.1
  accepted : ∀ entry ∈ r.operations.entries, isAccepted entry.2 = true

/-- What is promised of a registry that operations were put to. -/
structure Sound (r : Registry) : Prop where
  accepted : ∀ op ∈ r.toList, isAccepted op = true
  found : ∀ name op, r.get? name = some op ↔ op ∈ r.toList ∧ op.name = name
  increasing : (r.toList.map Operation.name).Pairwise (· < ·)
  distinct : (r.toList.map Operation.name).Nodup

/-- What is promised of putting one more operation to a registry. -/
structure Offers (r : Registry) (op : Operation) : Prop where
  succeeds : (∃ later, (r.register op).2 = .ok later) ↔
    isAccepted op = true ∧ r.get? op.name = none
  fails : ∀ defect, (r.register op).2 = .error defect →
    op.validate = .error defect ∨ defect = .duplicate op.name
  refused : ∀ defect, (r.register op).2 = .error defect → offered r op = r
  added : ∀ later, (r.register op).2 = .ok later → offered r op = later ∧
    (∃ before behind, r.toList = before ++ behind ∧ later.toList = before ++ op :: behind) ∧
    ∀ name, later.get? name = if name = op.name then some op else r.get? name

/-- What is promised of a configuration that is made into a registry. -/
structure Configures (operations : NameMap Operation) : Prop where
  succeeds : (∃ r, (Registry.ofConfig operations).2 = .ok r) ↔
    ∀ entry ∈ operations.entries, isAccepted (named entry) = true
  holds : ∀ r, (Registry.ofConfig operations).2 = .ok r →
    r.toList = operations.entries.map named ∧
    ∀ name, r.get? name = (operations.get? name).map fun op => { op with name }
  fails : ∀ defect, (Registry.ofConfig operations).2 = .error defect →
    ∃ before entry behind, operations.entries = before ++ entry :: behind ∧
      (∀ other ∈ before, isAccepted (named other) = true) ∧
      (named entry).validate = .error defect

theorem isAccepted_iff : isAccepted op = true ↔ ∃ warnings, op.validate = .ok warnings := by
  unfold isAccepted
  cases op.validate with
  | error defect => simp [Except.isOk, Except.toBool]
  | ok warnings => simp [Except.isOk, Except.toBool]

theorem not_isAccepted (invalid : op.validate = .error defect) : isAccepted op = false := by
  rw [isAccepted, invalid]
  rfl

/-- How putting an operation to a registry ends, and the registry after it. -/
inductive Registered (r : Registry) (op : Operation) : Except Operation.Defect Unit → Registry → Prop
  | invalid {defect : Operation.Defect} (why : op.validate = .error defect) :
    Registered r op (.error defect) r
  | taken (accepted : isAccepted op = true) (held : r.get? op.name ≠ none) :
    Registered r op (.error (.duplicate op.name)) r
  | fresh (accepted : isAccepted op = true) (free : r.get? op.name = none) :
    Registered r op (.ok ()) ⟨r.operations.insert op.name op⟩

theorem offer_invalid (why : op.validate = .error defect) :
    (Registry.offer op).run r = (([], .error defect), r) := by
  rw [Registry.offer, why]
  rfl

theorem offer_valid (valid : op.validate = .ok warnings) : (Registry.offer op).run r =
    if (r.get? op.name).isSome then ((warnings, .error (.duplicate op.name)), r)
    else ((warnings, .ok ()), ⟨r.operations.insert op.name op⟩) := by
  rw [Registry.offer, valid]
  simp only [StateT.run_bind, StateT.run_get, pure_bind]
  by_cases held : (r.get? op.name).isSome = true
  · have present : r.operations.contains op.name = true := held
    rw [if_pos held, if_pos present]
    rfl
  · have absent : ¬r.operations.contains op.name = true := held
    rw [if_neg held, if_neg absent]
    rfl

theorem offer_registered (r : Registry) (op : Operation) :
    Registered r op ((Registry.offer op).run r).1.2 (offered r op) := by
  unfold offered
  cases valid : op.validate with
  | error defect =>
    rw [offer_invalid valid]
    exact .invalid valid
  | ok warnings =>
    have accepted := isAccepted_iff.mpr ⟨warnings, valid⟩
    rw [offer_valid valid]
    split
    · rename_i present
      exact .taken accepted (Option.isSome_iff_ne_none.mp present)
    · rename_i absent
      exact .fresh accepted (Option.not_isSome_iff_eq_none.mp absent)

theorem register_result (r : Registry) (op : Operation) :
    (r.register op).2 = ((Registry.offer op).run r).1.2.map fun () => offered r op := rfl

theorem offered_cases (r : Registry) (op : Operation) : offered r op = r ∨
    (isAccepted op = true ∧ r.get? op.name = none ∧
      offered r op = ⟨r.operations.insert op.name op⟩) := by
  have registered := offer_registered r op
  generalize ((Registry.offer op).run r).1.2 = result, offered r op = later at registered
  cases registered with
  | invalid | taken => exact Or.inl rfl
  | fresh accepted free => exact Or.inr ⟨accepted, free, rfl⟩

theorem offered_kept (kept : Kept r) (op : Operation) : Kept (offered r op) := by
  rcases offered_cases r op with same | ⟨accepted, _, added⟩
  · rw [same]
    exact kept
  · rw [added]
    refine ⟨increasing_put kept.increasing _ _, fun entry member => ?_, fun entry member => ?_⟩
    · rcases mem_put member with rfl | old
      · rfl
      · exact kept.own entry old
    · rcases mem_put member with rfl | old
      · exact accepted
      · exact kept.accepted entry old

theorem offeredAll_kept (ops : List Operation) : Kept (offeredAll ops) := by
  have kept (r : Registry) (before : Kept r) : Kept (ops.foldl offered r) := by
    induction ops generalizing r with
    | nil => exact before
    | cons op ops ih => exact ih _ (offered_kept before op)
  exact kept .empty ⟨List.Pairwise.nil, by rintro _ ⟨⟩, by rintro _ ⟨⟩⟩

theorem Kept.sound (kept : Kept r) : Sound r := by
  have names : r.toList.map Operation.name = r.operations.entries.map Prod.fst := by
    rw [Registry.toList, NameMap.values, List.map_map]
    exact List.map_congr_left fun entry member => kept.own entry member
  have increasing : (r.toList.map Operation.name).Pairwise (· < ·) := by
    rw [names]
    exact List.pairwise_map.mpr kept.increasing
  refine ⟨fun op member => ?_, fun name op => ?_, increasing, ?_⟩
  · obtain ⟨entry, held, rfl⟩ := List.mem_map.mp member
    exact kept.accepted entry held
  · rw [Registry.get?, NameMap.get?, lookup_eq_some_iff kept.increasing]
    constructor
    · intro held
      exact ⟨List.mem_map.mpr ⟨_, held, rfl⟩, kept.own _ held⟩
    · rintro ⟨member, rfl⟩
      obtain ⟨entry, held, rfl⟩ := List.mem_map.mp member
      rw [kept.own entry held]
      exact held
  · refine increasing.imp fun {a b} smaller same => ?_
    rw [same] at smaller
    exact String.lt_irrefl b smaller

private theorem Registered.offers {result : Except Operation.Defect Unit}
    (registered : Registered r op result later) (after : offered r op = later)
    (ended : (r.register op).2 = result.map fun () => later) : Offers r op where
  succeeds := by
    rw [ended]
    cases registered with
    | invalid why =>
      refine iff_of_false (by rintro ⟨_, ⟨⟩⟩) ?_
      rintro ⟨accepted, _⟩
      cases (not_isAccepted why).symm.trans accepted
    | taken _ held => exact iff_of_false (by rintro ⟨_, ⟨⟩⟩) fun both => held both.2
    | fresh accepted free => exact iff_of_true ⟨_, rfl⟩ ⟨accepted, free⟩
  fails defect failed := by
    rw [ended] at failed
    cases registered with
    | invalid why => cases failed; exact Or.inl why
    | taken => cases failed; exact Or.inr rfl
    | fresh => cases failed
  refused defect failed := by
    rw [ended] at failed
    cases registered with
    | invalid | taken => exact after
    | fresh => cases failed
  added later ok := by
    rw [ended] at ok
    cases registered with
    | invalid | taken => cases ok
    | fresh _ free =>
      cases ok
      obtain ⟨before, behind, whole, put⟩ := put_fresh (lookup_eq_none_iff.mp free) op
      refine ⟨after, ⟨before.map Prod.snd, behind.map Prod.snd, ?_, ?_⟩, ?_⟩
      · rw [Registry.toList, NameMap.values, whole, List.map_append]
      · rw [Registry.toList, NameMap.values, NameMap.insert, put, List.map_append]
        rfl
      · exact fun name => NameMap.get?_insert r.operations op.name name op

theorem register_offers (r : Registry) (op : Operation) : Offers r op :=
  (offer_registered r op).offers rfl (register_result r op)

private theorem offered_get? (r : Registry) (op : Operation) (name : String) :
    (offered r op).get? name =
      (r.get? name).or (if op.name = name ∧ isAccepted op = true then some op else none) := by
  have registered := offer_registered r op
  generalize ((Registry.offer op).run r).1.2 = result, offered r op = later at registered
  cases registered with
  | invalid why => simp [not_isAccepted why]
  | taken accepted held =>
    by_cases same : op.name = name
    · subst same
      obtain ⟨first, found⟩ := Option.ne_none_iff_exists'.mp held
      simp [found]
    · simp [same]
  | fresh accepted free =>
    have added : (⟨r.operations.insert op.name op⟩ : Registry).get? name =
        if name = op.name then some op else r.get? name := NameMap.get?_insert ..
    simp only [added, accepted, and_true]
    by_cases same : op.name = name
    · subst same
      simp [free]
    · simp [same, Ne.symm same]

/-- Of all operations of one name, the first that is accepted is the one on offer. -/
theorem get?_offeredAll (ops : List Operation) (name : String) : (offeredAll ops).get? name =
    ops.find? fun op => decide (op.name = name ∧ isAccepted op = true) := by
  have found (r : Registry) : (ops.foldl offered r).get? name =
      (r.get? name).or (ops.find? fun op => decide (op.name = name ∧ isAccepted op = true)) := by
    induction ops generalizing r with
    | nil => simp
    | cons op ops ih =>
      rw [List.foldl_cons, ih, offered_get?, Option.or_assoc, List.find?_cons]
      congr 1
      by_cases first : op.name = name ∧ isAccepted op = true
      · simp [first]
      · simp [first]
  exact found .empty

theorem register_free (accepted : isAccepted op = true) (free : r.get? op.name = none) :
    (r.register op).2 = .ok ⟨r.operations.insert op.name op⟩ := by
  have registered := offer_registered r op
  rw [register_result]
  generalize ((Registry.offer op).run r).1.2 = result, offered r op = later at registered
  cases registered with
  | invalid why => cases (not_isAccepted why).symm.trans accepted
  | taken _ held => exact absurd free held
  | fresh => rfl

/-- A configured operation under its key. -/
private def keyed (entry : String × Operation) : String × Operation := (entry.1, named entry)

private theorem registerAll_taken {entry : String × Operation} {rest : List (String × Operation)}
    (taken : (r.register (named entry)).2 = .ok later) :
    (r.registerAll (entry :: rest)).2 = (later.registerAll rest).2 := by
  obtain ⟨name, op⟩ := entry
  rw [Registry.registerAll]
  generalize same : r.register { op with name } = answer
  obtain ⟨warnings, result⟩ := answer
  obtain rfl : result = .ok later := (congrArg Prod.snd same).symm.trans taken
  rfl

private theorem registerAll_refused {entry : String × Operation} {rest : List (String × Operation)}
    (refused : (r.register (named entry)).2 = .error defect) :
    (r.registerAll (entry :: rest)).2 = .error defect := by
  obtain ⟨name, op⟩ := entry
  rw [Registry.registerAll]
  generalize same : r.register { op with name } = answer
  obtain ⟨warnings, result⟩ := answer
  obtain rfl : result = .error defect := (congrArg Prod.snd same).symm.trans refused
  rfl

/-- Accepted operations whose names increase are all put behind those that are there. -/
private theorem registerAll_append {before : List (String × Operation)}
    (accepted : ∀ entry ∈ before, isAccepted (named entry) = true)
    (increasing : Increasing (r.operations.entries ++ before.map keyed))
    (rest : List (String × Operation)) : (r.registerAll (before ++ rest)).2 =
      (Registry.registerAll ⟨⟨r.operations.entries ++ before.map keyed⟩⟩ rest).2 := by
  induction before generalizing r with
  | nil => simp
  | cons entry before ih =>
    obtain ⟨here, later⟩ := List.forall_mem_cons.mp accepted
    have smaller : ∀ old ∈ r.operations.entries, old.1 < entry.1 := fun old held =>
      (List.pairwise_append.mp increasing).2.2 old held (keyed entry) (List.mem_cons_self ..)
    have free : r.get? entry.1 = none := by
      refine lookup_eq_none_iff.mpr fun taken => ?_
      obtain ⟨old, held, same⟩ := List.mem_map.mp taken
      exact String.lt_irrefl _ (same ▸ smaller old held)
    have put : r.operations.insert entry.1 (named entry) =
        ⟨r.operations.entries ++ [keyed entry]⟩ :=
      congrArg NameMap.mk (put_last smaller (named entry))
    have taken : (r.register (named entry)).2 = .ok ⟨⟨r.operations.entries ++ [keyed entry]⟩⟩ := by
      rw [register_free here free, ← put]
      rfl
    rw [List.cons_append, registerAll_taken taken, ih later]
    · simp
    · simpa using increasing

/-- Either all configured operations are accepted, or there is a first that is not. -/
private theorem accepted_or_first (entries : List (String × Operation)) :
    (∀ entry ∈ entries, isAccepted (named entry) = true) ∨
      ∃ before entry behind defect, entries = before ++ entry :: behind ∧
        (∀ other ∈ before, isAccepted (named other) = true) ∧
        (named entry).validate = .error defect := by
  cases found : entries.find? fun entry => !isAccepted (named entry) with
  | none =>
    left
    simpa using List.find?_eq_none.mp found
  | some entry =>
    right
    obtain ⟨refused, before, behind, whole, earlier⟩ := List.find?_eq_some_iff_append.mp found
    cases valid : (named entry).validate with
    | ok warnings =>
      rw [isAccepted_iff.mpr ⟨warnings, valid⟩] at refused
      cases refused
    | error defect => exact ⟨before, entry, behind, defect, whole, by simpa using earlier, valid⟩

private theorem increasing_keyed {entries : List (String × Operation)}
    (increasing : Increasing entries) : Increasing (entries.map keyed) :=
  List.pairwise_map.mpr increasing

theorem ofConfig_accepted {operations : NameMap Operation}
    (increasing : Increasing operations.entries)
    (accepted : ∀ entry ∈ operations.entries, isAccepted (named entry) = true) :
    (Registry.ofConfig operations).2 = .ok ⟨⟨operations.entries.map keyed⟩⟩ := by
  have taken := registerAll_append (r := .empty) accepted (increasing_keyed increasing) []
  rw [List.append_nil] at taken
  exact taken

theorem ofConfig_refused {operations : NameMap Operation}
    (increasing : Increasing operations.entries) {before behind : List (String × Operation)}
    {entry : String × Operation} (whole : operations.entries = before ++ entry :: behind)
    (accepted : ∀ other ∈ before, isAccepted (named other) = true)
    (invalid : (named entry).validate = .error defect) :
    (Registry.ofConfig operations).2 = .error defect := by
  have earlier : Increasing before := by
    rw [whole] at increasing
    exact (List.pairwise_append.mp increasing).1
  have taken := registerAll_append (r := .empty) accepted (increasing_keyed earlier)
    (entry :: behind)
  rw [← whole] at taken
  refine taken.trans (registerAll_refused ?_)
  rw [register_result, offer_invalid invalid]
  rfl

private theorem lookup_keyed (entries : List (String × Operation)) (name : String) :
    (entries.map keyed).lookup name = (entries.lookup name).map fun op => { op with name } := by
  induction entries with
  | nil => rfl
  | cons entry rest ih =>
    obtain ⟨key, op⟩ := entry
    by_cases same : name = key
    · subst same
      simp [keyed, named]
    · have different : (name == key) = false := beq_eq_false_iff_ne.mpr same
      simp [keyed, List.lookup_cons, different, ← ih]

theorem ofConfig_configures {operations : NameMap Operation}
    (increasing : Increasing operations.entries) : Configures operations := by
  rcases accepted_or_first operations.entries with
    accepted | ⟨before, entry, behind, defect, whole, earlier, invalid⟩
  · have taken := ofConfig_accepted increasing accepted
    refine ⟨iff_of_true ⟨_, taken⟩ accepted, fun r ok => ?_, fun defect failed => ?_⟩
    · rw [taken] at ok
      cases ok
      refine ⟨?_, lookup_keyed operations.entries⟩
      rw [Registry.toList, NameMap.values, List.map_map]
      rfl
    · rw [taken] at failed
      cases failed
  · have refused := ofConfig_refused increasing whole earlier invalid
    refine ⟨iff_of_false ?_ ?_, fun r ok => ?_, fun other failed => ?_⟩
    · rintro ⟨r, ok⟩
      rw [refused] at ok
      cases ok
    · intro accepted
      have member : entry ∈ operations.entries := by simp [whole]
      cases (not_isAccepted invalid).symm.trans (accepted entry member)
    · rw [refused] at ok
      cases ok
    · rw [refused] at failed
      cases failed
      exact ⟨before, entry, behind, whole, earlier, invalid⟩

/-- **What a registry has on offer.** Whatever operations were put to a registry, in whatever order, it
has accepted operations only, each under its own name and in the order of the names: of each name, the
first that was accepted. One more operation is added alone, or changes nothing. A configuration whose
names increase is taken whole, or refused for the first operation that is not accepted. -/
theorem registry_keeps_accepted :
    (∀ ops, Sound (offeredAll ops)) ∧ (∀ ops op, Offers (offeredAll ops) op) ∧
      (∀ ops name, (offeredAll ops).get? name =
        ops.find? fun op => decide (op.name = name ∧ isAccepted op = true)) ∧
      ∀ operations : NameMap Operation, Increasing operations.entries → Configures operations :=
  ⟨fun ops => (offeredAll_kept ops).sound, fun ops op => register_offers (offeredAll ops) op,
    get?_offeredAll, fun _ increasing => ofConfig_configures increasing⟩

/-- A configuration of two operations, written with the greater name first. -/
def noteConfig : NameMap Operation := .ofList
  [("rename", .statement "" "UPDATE notes SET title = \x7btitle\x7d WHERE id = \x7bid\x7d"),
    ("list", .listing "" "SELECT id, title FROM notes")]

/-- A configuration with an operation that has no statement. -/
def silentConfig : NameMap Operation := .ofList
  [("list", .listing "" "SELECT id, title FROM notes"), ("draft", .listing "" " ")]

theorem noteConfig_offered :
    Increasing noteConfig.entries ∧ Increasing silentConfig.entries ∧
      (∃ r, (Registry.ofConfig noteConfig).2 = .ok r ∧
        r.toList.map Operation.name = ["list", "rename"]) ∧
      ¬∃ r, (Registry.ofConfig silentConfig).2 = .ok r := by
  have increasing : Increasing noteConfig.entries := increasing_ofList _
  have silent : Increasing silentConfig.entries := increasing_ofList _
  have configures := registry_keeps_accepted.2.2.2 noteConfig increasing
  have refuses := registry_keeps_accepted.2.2.2 silentConfig silent
  obtain ⟨r, taken⟩ := configures.succeeds.mpr (by decide +kernel)
  refine ⟨increasing, silent, ⟨r, taken, ?_⟩, fun taken => ?_⟩
  · rw [(configures.holds r taken).1]
    decide +kernel
  · exact absurd (refuses.succeeds.mp taken) (by decide +kernel)

end NamedSql.RegistryInvariant
