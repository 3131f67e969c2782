import NamedSql.Proofs.InsertionOrder
import NamedSql.Proofs.RouteDiscipline

/-! A statement binds each name that it refers to, once, in the order of the first references. The value
of a name is looked for in the body first, then in the query string from its end; a member of the body
hides the query string even where it is null, and a name that is found nowhere is bound to null. -/
namespace NamedSql.StatementParameters
open Sql Http ServiceRuns OperationRuns StoreExchanges RouteDiscipline InsertionOrder ErrorSecrecy

variable {σ : Type} {pairs : List (String × String)} {members : List (String × Json)}

/-- The value of a name, by the layers of a request. -/
def layered (pairs : List (String × String)) (members : List (String × Json)) (name : String) :
    Value :=
  match members.lookup name with
  | some j => Value.ofJson j
  | none =>
    match pairs.reverse.lookup name with
    | some text => .text text
    | none => .null

/-- Whether an operation binds what it refers to, in order and by the layers. -/
structure Binds (op : Operation) (pairs : List (String × String)) (members : List (String × Json))
    (params : Params) : Prop where
  entries : params.entries = (referencedNames op.sql).map fun name => (name, layered pairs members name)
  order : FirstSeen params.names (references op.sql)

private theorem lookup_texts (pairs : List (String × String)) (name : String) :
    (pairs.map fun pair => (pair.1, Json.text pair.2)).lookup name =
      (pairs.lookup name).map Json.text := by
  induction pairs with
  | nil => rfl
  | cons pair pairs ih =>
    obtain ⟨key, text⟩ := pair
    by_cases same : name = key
    · simp [same]
    · have different : (name == key) = false := beq_eq_false_iff_ne.mpr same
      simp [List.lookup_cons, different, ih]

/-- Of the pairs of one name the last counts. -/
theorem get?_ofPairs (pairs : List (String × String)) (name : String) :
    (Request.ofPairs pairs).get? name = (pairs.reverse.lookup name).map Json.text := by
  have found := get?_insertAll Record.empty (pairs.map fun pair => (pair.1, Json.text pair.2)) name
  rw [Record.get?_empty, Option.or_none, ← List.map_reverse, lookup_texts] at found
  exact found

/-- The members of an object are looked at before what they overlay. -/
theorem get?_overlay (request : Request) (distinct : (members.map Prod.fst).Nodup) (name : String) :
    (request.overlay (.object members)).get? name = (members.lookup name).or (request.get? name) := by
  have found := get?_insertAll request.fields members name
  rw [lookup_reverse distinct] at found
  exact found

theorem value_layered (distinct : (members.map Prod.fst).Nodup) (name : String) :
    ((Request.ofPairs pairs).overlay (.object members)).value name = layered pairs members name := by
  rw [Request.value, get?_overlay _ distinct, get?_ofPairs, layered]
  cases members.lookup name with
  | some j => rfl
  | none =>
    cases pairs.reverse.lookup name with
    | some text => rfl
    | none => rfl

theorem bind_entries (sql : String) (request : Request) :
    (Statement.bind sql request).params.entries =
      (referencedNames sql).map fun name => (name, request.value name) := by
  have distinct : ((Record.empty : Params).names ++
      ((referencedNames sql).map fun name => (name, request.value name)).map Prod.fst).Nodup := by
    rw [List.map_map]
    simpa [Function.comp_def, Record.names, Record.empty] using
      ParameterNames.referencedNames_nodup sql
  exact entries_insertAll Record.empty _ distinct

theorem bind_binds (op : Operation) (distinct : (members.map Prod.fst).Nodup) :
    Binds op pairs members
      (Statement.bind op.sql ((Request.ofPairs pairs).overlay (.object members))).params where
  entries := by
    rw [bind_entries]
    exact List.map_congr_left fun name _ => by rw [value_layered distinct]
  order := by
    rw [ParameterNames.bind_names]
    exact firstSeen_addNames (references op.sql)

/-- The members that a body adds; an empty one adds none. -/
def bodyMembers? (body : ByteArray) : Option (List (String × Json)) :=
  if body.size = 0 then some []
  else
    match bodyJson? body with
    | some (.object members) => some members
    | _ => none

theorem bodyMembers?_distinct {body : ByteArray} (given : bodyMembers? body = some members) :
    (members.map Prod.fst).Nodup := by
  unfold bodyMembers? at given
  split at given
  · cases given
    exact List.nodup_nil
  · split at given
    · rename_i object
      cases given
      obtain ⟨text, _, read⟩ := Option.bind_eq_some_iff.mp object
      exact parse?_distinct read
    · cases given

theorem requestOf_members {body : ByteArray} (query : String)
    (given : bodyMembers? body = some members) : Service.requestOf query body =
      .ok ((Request.ofPairs (Form.pairs query)).overlay (.object members)) := by
  unfold bodyMembers? at given
  split at given
  · rename_i empty
    cases given
    exact requestOf_empty query empty
  · rename_i full
    split at given
    · rename_i object
      cases given
      exact requestOf_object query full object
    · cases given

theorem execute_exchanges (store : Store σ) (op : Operation) (request : Request) (state : σ) :
    ∃ answer, exchanges store (fun store => op.execute store request) state =
      [carrying op request answer] := by
  unfold exchanges
  simp only [statement_run, observed, noted_run]
  rcases (store.execute _ _).run state with ⟨cause | changed, later⟩
  · exact ⟨.error cause, rfl⟩
  · exact ⟨.ok changed, rfl⟩

/-- Where nothing is wrong with a request, its operation is carried out. -/
theorem posted_carrying {s : Service σ} {name query : String} {body : ByteArray} {response : Response}
    {exchanged : List Exchange} {op : Operation} {request : Request}
    (posted : Posted s name query body response exchanged) (found : s.find name .execute = .ok op)
    (read : Service.requestOf query body = .ok request) :
    ∃ answer, exchanged = [carrying op request answer] := by
  cases posted with
  | unfound refused => cases found.symm.trans refused
  | unreadable _ refused => cases read.symm.trans refused
  | failed finds reads cause =>
    cases found.symm.trans finds
    cases read.symm.trans reads
    exact ⟨.error cause, rfl⟩
  | carriedOut finds reads changed =>
    cases found.symm.trans finds
    cases read.symm.trans reads
    exact ⟨.ok changed, rfl⟩

/-- **What a statement binds.** Whatever its store does, an operation that is carried out asks it once,
with the names that the statement refers to, each once and in the order of their first reference, and
with the values by the layers of the request. So it is for every request in itself, and for every
message that the service takes. -/
theorem statements_bind_layers (op : Operation) :
    (∀ {σ : Type} (store : Store σ) (state : σ) (pairs : List (String × String))
      (members : List (String × Json)), (members.map Prod.fst).Nodup →
      ∃ params answer, Binds op pairs members params ∧
        exchanges store (fun store =>
          op.execute store ((Request.ofPairs pairs).overlay (.object members))) state =
            [.execute (rewriteReferences op.sql) params answer]) ∧
    ∀ {σ : Type} (s : Service σ) (m : Message) (state : σ) {segment name : String}
      {members : List (String × Json)}, m.method = "POST" →
      Route.ofPath? m.path = some (.operation segment) → Service.decodeName segment = .ok name →
      s.registry.get? name = some op → op.kind = .execute →
      m.body.size ≤ bodyLimit → bodyMembers? m.body = some members →
      ∃ params answer, Binds op (Form.pairs m.query) members params ∧
        asked s m state = [.execute (rewriteReferences op.sql) params answer] := by
  constructor
  · intro σ store state pairs members distinct
    obtain ⟨answer, once⟩ := execute_exchanges store op
      ((Request.ofPairs pairs).overlay (.object members)) state
    exact ⟨_, answer, bind_binds op distinct, once⟩
  · intro σ s m state segment name members method route named present kind fits given
    have exchanged := asked_post (s := s) route named method fits state
    obtain ⟨answer, once⟩ := posted_carrying (execute_posted s name m.query m.body state)
      (find_ok_iff.mpr ⟨present, kind⟩) (requestOf_members m.query given)
    exact ⟨_, answer, bind_binds op (bodyMembers?_distinct given), exchanged.trans once⟩

/-- The statement of the notes that names a note anew. -/
def noteRenaming : Operation :=
  .statement "rename" "UPDATE notes SET title = \x7btitle\x7d WHERE id = \x7bid\x7d"

/-- The request to name a note twice, with a body in which its number is null. -/
def titling : Message :=
  posting "/api/v1/operations/rename?id=7&title=draft&title=done"
    "\x7b\"id\":null\x7d".toUTF8

theorem noteService_binds : ∃ params answer,
    Binds noteRenaming [("id", "7"), ("title", "draft"), ("title", "done")] [("id", .null)] params ∧
      params.entries = [("title", .text "done"), ("id", .null)] ∧
      asked noteService titling ⟨thriving, []⟩ =
        [.execute "UPDATE notes SET title = :title WHERE id = :id" params answer] := by
  have route : Route.ofPath? titling.path = some (.operation "rename") := by decide +kernel
  have named : Service.decodeName "rename" = .ok "rename" := rfl
  have present : noteService.registry.get? "rename" = some noteRenaming := by decide +kernel
  have given : bodyMembers? titling.body = some [("id", .null)] := rfl
  have query : Form.pairs titling.query = [("id", "7"), ("title", "draft"), ("title", "done")] := by
    decide +kernel
  have sql : rewriteReferences noteRenaming.sql =
    "UPDATE notes SET title = :title WHERE id = :id" := by decide +kernel
  have names : referencedNames noteRenaming.sql = ["title", "id"] := by decide +kernel
  obtain ⟨params, answer, binds, once⟩ := (statements_bind_layers noteRenaming).2 noteService
    titling ⟨thriving, []⟩ rfl route named present rfl (by decide) given
  rw [query] at binds
  rw [sql] at once
  refine ⟨params, answer, binds, ?_, once⟩
  rw [binds.entries, names]
  rfl

end NamedSql.StatementParameters
