import NamedSql.Proofs.StoreExchanges

/-! The routes of the operations ask their store in a fixed order. Getting an operation counts its rows
and, only where that is answered, reads a page of them with the same parameters; posting to one carries
out its statement, once. Whatever is wrong with a request is found before the first question, and the
client is told of success exactly where the last one was answered. -/
namespace NamedSql.RouteDiscipline
open Http OperationRuns ServiceRuns StoreExchanges ErrorSecrecy

variable {σ : Type} {s : Service σ} {m : Message} {state : σ} {name query segment : String}
variable {body : ByteArray} {response : Response} {exchanged : List Exchange}

/-- The JSON value of a body. -/
def bodyJson? (body : ByteArray) : Option Json := (String.fromUTF8? body).bind Json.parse?

theorem find_ok_iff {kind : Operation.Kind} {op : Operation} :
    s.find name kind = .ok op ↔ s.registry.get? name = some op ∧ op.kind = kind := by
  unfold Service.find
  cases s.registry.get? name with
  | none => simp
  | some other =>
    by_cases same : other.kind = kind
    · simp only [same, if_true, Except.ok.injEq, Option.some.injEq]
      exact ⟨fun eq => ⟨eq, eq ▸ same⟩, fun both => both.1⟩
    · simp only [same, if_false, Option.some.injEq, reduceCtorEq, false_iff, not_and]
      rintro rfl
      exact same

theorem find_unknown (kind : Operation.Kind) (absent : s.registry.get? name = none) :
    s.find name kind = .error (.unknownOperation name) := by
  rw [Service.find, absent]

theorem find_otherKind {kind : Operation.Kind} {op : Operation}
    (present : s.registry.get? name = some op) (other : op.kind ≠ kind) :
    s.find name kind = .error (.wrongKind op) := by
  simp only [Service.find, present, other, if_false]

/-- No problem is reported as a success. -/
theorem problem_status (problem : Problem) : problem.response.status ≠ 200 := by
  change problem.status ≠ 200
  cases problem <;> simp [Problem.status]

/-- An operation that cannot be prepared has parameters in conflict. -/
theorem unprepared_status {op : Operation} {request : Request} {fault : Fault}
    (failed : op.prepare request = .error fault) : (Problem.ofFault fault).response.status = 500 := by
  unfold Operation.prepare at failed
  simp only at failed
  split at failed
  · cases failed
    rfl
  · cases failed

/-- The question for the number of rows of a prepared query. -/
def counting (s : Service σ) (prepared : Operation.Prepared) (answer : Except Store.Error Int64) :
    Exchange :=
  .count (s.store.dialect.counted prepared.statement.text) prepared.statement.params answer

/-- The question for a page of them. -/
def paging (s : Service σ) (prepared : Operation.Prepared) (window : Page)
    (answer : Except Store.Error (List Row)) : Exchange :=
  .rows (s.store.dialect.limited prepared.statement.text window.count window.start)
    prepared.statement.params answer

/-- How a request for the rows of an operation ends, and what has been asked by then. -/
inductive Fetched (s : Service σ) (name query : String) : Response → List Exchange → Prop
  | unfound {problem} (refused : s.find name .queryAll = .error problem) :
    Fetched s name query problem.response []
  | unprepared {op fault} (found : s.find name .queryAll = .ok op)
    (failed : op.prepare (.ofPairs (Form.pairs query)) = .error fault) :
    Fetched s name query (Problem.ofFault fault).response []
  | uncounted {op prepared} (found : s.find name .queryAll = .ok op)
    (ready : op.prepare (.ofPairs (Form.pairs query)) = .ok prepared) (cause) :
    Fetched s name query (Problem.ofFault (.store cause)).response
      [counting s prepared (.error cause)]
  | unread {op prepared} (found : s.find name .queryAll = .ok op)
    (ready : op.prepare (.ofPairs (Form.pairs query)) = .ok prepared) (window total cause) :
    Fetched s name query (Problem.ofFault (.store cause)).response
      [counting s prepared (.ok total), paging s prepared window (.error cause)]
  | listed {op prepared} (found : s.find name .queryAll = .ok op)
    (ready : op.prepare (.ofPairs (Form.pairs query)) = .ok prepared) (window total entries) :
    Fetched s name query (.ofJson 200 (Envelope.toJson ⟨total, window, entries⟩))
      [counting s prepared (.ok total), paging s prepared window (.ok entries)]

theorem list_fetched (s : Service σ) (name query : String) (state : σ) :
    Fetched s name query (((watched s).list name query).run (state, [])).1
      (((watched s).list name query).run (state, [])).2.2 := by
  rw [list_run]
  have find : (watched s).find name .queryAll = s.find name .queryAll := rfl
  rw [find]
  cases found : s.find name .queryAll with
  | error problem => exact .unfound found
  | ok op =>
    simp only
    cases ready : op.prepare (.ofPairs (Form.pairs query)) with
    | error fault =>
      rw [queryAll_unprepared ready]
      exact .unprepared found ready
    | ok prepared =>
      rw [queryAll_run ready]
      simp only [watched, observed, noted_run]
      rcases (s.store.count _ _).run state with ⟨cause | total, later⟩
      · exact .uncounted found ready _
      · simp only [noted_run]
        rcases (s.store.rows _ _).run later with ⟨cause | entries, last⟩
        · exact .unread found ready _ _ _
        · exact .listed found ready _ _ _

/-- The order to carry out the statement of an operation. -/
def carrying (op : Operation) (request : Request) (answer : Except Store.Error UInt64) : Exchange :=
  .execute (Statement.bind op.sql request).text (Statement.bind op.sql request).params answer

/-- How a request to carry out an operation ends, and what has been asked by then. -/
inductive Posted (s : Service σ) (name query : String) (body : ByteArray) :
    Response → List Exchange → Prop
  | unfound {problem} (refused : s.find name .execute = .error problem) :
    Posted s name query body problem.response []
  | unreadable {op problem} (found : s.find name .execute = .ok op)
    (refused : Service.requestOf query body = .error problem) :
    Posted s name query body problem.response []
  | failed {op request} (found : s.find name .execute = .ok op)
    (read : Service.requestOf query body = .ok request) (cause) :
    Posted s name query body (Problem.ofFault (statementFault cause)).response
      [carrying op request (.error cause)]
  | carriedOut {op request} (found : s.find name .execute = .ok op)
    (read : Service.requestOf query body = .ok request) (changed) :
    Posted s name query body (.ofJson 200 Service.succeeded) [carrying op request (.ok changed)]

theorem execute_posted (s : Service σ) (name query : String) (body : ByteArray) (state : σ) :
    Posted s name query body (((watched s).execute name query body).run (state, [])).1
      (((watched s).execute name query body).run (state, [])).2.2 := by
  rw [execute_run]
  have find : (watched s).find name .execute = s.find name .execute := rfl
  rw [find]
  cases found : s.find name .execute with
  | error problem => exact .unfound found
  | ok op =>
    simp only
    cases read : Service.requestOf query body with
    | error problem => exact .unreadable found read
    | ok request =>
      simp only [statement_run, watched, observed, noted_run]
      rcases (s.store.execute _ _).run state with ⟨cause | changed, later⟩
      · exact .failed found read _
      · exact .carriedOut found read _

/-- Whether a text tells of rows and of how many there are in all: it is an object with the number and the
rows as they are, in their order, around the window that they are from. -/
def Tells (text : String) (total : Int64) (rows : List Row) : Prop :=
  ∃ members : List (String × Json), text = (Json.object members).render ∧
    members.map Prod.fst = ["totalResults", "itemsPerPage", "startIndex", "entry"] ∧
    members.lookup "totalResults" = some (.ofInt total.toInt) ∧
    members.lookup "entry" = some (.list (rows.map fun row => .object row.entries))

theorem tells_envelope (total : Int64) (window : Page) (rows : List Row) :
    Tells (Envelope.toJson ⟨total, window, rows⟩).render total rows :=
  ⟨_, rfl, rfl, rfl, rfl⟩

/-- What getting an operation asks, and what the client learns of it. -/
structure Fetches (s : Service σ) (name query : String) (response : Response)
    (asked : List Exchange) : Prop where
  turns : asked = [] ∨ (∃ sql params cause, asked = [.count sql params (.error cause)]) ∨
    ∃ sql page params total answer,
      asked = [.count sql params (.ok total), .rows page params answer]
  succeeds : response.status = 200 ↔ ∃ sql page params total entries,
    asked = [.count sql params (.ok total), .rows page params (.ok entries)]
  passesOn : ∀ {sql page params total entries},
    asked = [.count sql params (.ok total), .rows page params (.ok entries)] →
      Tells response.body total entries
  unknown : s.registry.get? name = none → asked = [] ∧ response.status = 404
  otherKind : ∀ {op}, s.registry.get? name = some op → op.kind ≠ .queryAll →
    asked = [] ∧ response.status = 405
  unprepared : ∀ {op fault}, s.registry.get? name = some op → op.kind = .queryAll →
    op.prepare (.ofPairs (Form.pairs query)) = .error fault → asked = [] ∧ response.status = 500
  asks : ∀ {op prepared}, s.registry.get? name = some op → op.kind = .queryAll →
    op.prepare (.ofPairs (Form.pairs query)) = .ok prepared →
      ∃ answer rest, asked = counting s prepared answer :: rest

theorem Fetched.fetches (fetched : Fetched s name query response exchanged) :
    Fetches s name query response exchanged where
  turns := by
    cases fetched with
    | unfound | unprepared => exact Or.inl rfl
    | uncounted _ _ cause => exact Or.inr (Or.inl ⟨_, _, cause, rfl⟩)
    | unread _ _ window total cause => exact Or.inr (Or.inr ⟨_, _, _, total, .error cause, rfl⟩)
    | listed _ _ window total entries => exact Or.inr (Or.inr ⟨_, _, _, total, .ok entries, rfl⟩)
  succeeds := by
    cases fetched with
    | unfound | unprepared | uncounted | unread =>
      refine iff_of_false (problem_status _) ?_
      rintro ⟨sql, page, params, total, entries, same⟩
      simp [counting, paging] at same
    | listed _ _ window total entries => exact iff_of_true rfl ⟨_, _, _, total, entries, rfl⟩
  passesOn := by
    intro sql page params total entries same
    cases fetched with
    | unfound | unprepared | uncounted | unread => simp [counting, paging] at same
    | listed _ _ window _ _ =>
      simp only [counting, paging, List.cons.injEq, Exchange.count.injEq, Exchange.rows.injEq,
        Except.ok.injEq] at same
      obtain ⟨⟨-, -, rfl⟩, ⟨-, -, rfl⟩, -⟩ := same
      exact tells_envelope _ window _
  unknown := by
    intro absent
    have refused := find_unknown .queryAll absent
    cases fetched with
    | unfound problem =>
      cases refused.symm.trans problem
      exact ⟨rfl, rfl⟩
    | unprepared found | uncounted found | unread found | listed found =>
      cases refused.symm.trans found
  otherKind := by
    intro op present other
    have refused := find_otherKind present other
    cases fetched with
    | unfound problem =>
      cases refused.symm.trans problem
      exact ⟨rfl, rfl⟩
    | unprepared found | uncounted found | unread found | listed found =>
      cases refused.symm.trans found
  unprepared := by
    intro op fault present listing failed
    have finds := find_ok_iff.mpr ⟨present, listing⟩
    cases fetched with
    | unfound problem => cases finds.symm.trans problem
    | unprepared found fails =>
      cases finds.symm.trans found
      exact ⟨rfl, unprepared_status fails⟩
    | uncounted found ready | unread found ready | listed found ready =>
      cases finds.symm.trans found
      cases failed.symm.trans ready
  asks := by
    intro op prepared present listing ready
    have finds := find_ok_iff.mpr ⟨present, listing⟩
    cases fetched with
    | unfound problem => cases finds.symm.trans problem
    | unprepared found failed =>
      cases finds.symm.trans found
      cases ready.symm.trans failed
    | uncounted found prepares | unread found prepares | listed found prepares =>
      cases finds.symm.trans found
      cases ready.symm.trans prepares
      exact ⟨_, _, rfl⟩

/-- Whether a body can be read: it is empty, or a JSON object. -/
def IsReadable (body : ByteArray) : Prop :=
  body.size = 0 ∨ ∃ members, bodyJson? body = some (.object members)

theorem requestOf_empty (query : String) (empty : body.size = 0) :
    Service.requestOf query body = .ok (.ofPairs (Form.pairs query)) := by
  simp only [Service.requestOf, empty, if_true]

theorem requestOf_object (query : String) {members : List (String × Json)} (given : body.size ≠ 0)
    (object : bodyJson? body = some (.object members)) :
    Service.requestOf query body =
      .ok ((Request.ofPairs (Form.pairs query)).overlay (.object members)) := by
  unfold bodyJson? at object
  simp only [Service.requestOf, given, if_false, object]

theorem requestOf_readable (query : String) (readable : IsReadable body) :
    ∃ request, Service.requestOf query body = .ok request := by
  by_cases empty : body.size = 0
  · exact ⟨_, requestOf_empty query empty⟩
  · obtain ⟨members, object⟩ := readable.resolve_left empty
    exact ⟨_, requestOf_object query empty object⟩

theorem requestOf_unreadable (query : String) (unreadable : ¬IsReadable body) :
    ∃ problem, Service.requestOf query body = .error problem ∧ problem.status = 400 := by
  obtain ⟨given, other⟩ := not_or.mp unreadable
  unfold bodyJson? at other
  simp only [Service.requestOf, given, if_false]
  split
  · exact ⟨_, rfl, rfl⟩
  · rename_i members object
    exact absurd ⟨members, object⟩ other
  · exact ⟨_, rfl, rfl⟩

/-- What posting to an operation asks, and what the client learns of it. -/
structure Posts (s : Service σ) (name query : String) (body : ByteArray) (response : Response)
    (asked : List Exchange) : Prop where
  turns : asked = [] ∨ ∃ sql params answer, asked = [.execute sql params answer]
  succeeds : response.status = 200 ↔
    ∃ sql params changed, asked = [.execute sql params (.ok changed)]
  unknown : s.registry.get? name = none → asked = [] ∧ response.status = 404
  otherKind : ∀ {op}, s.registry.get? name = some op → op.kind ≠ .execute →
    asked = [] ∧ response.status = 405
  unreadable : ¬IsReadable body → asked = [] ∧
    ∀ {op}, s.registry.get? name = some op → op.kind = .execute → response.status = 400
  asks : ∀ {op}, s.registry.get? name = some op → op.kind = .execute → IsReadable body →
    ∃ request answer, Service.requestOf query body = .ok request ∧
      asked = [carrying op request answer]

theorem Posted.posts (posted : Posted s name query body response exchanged) :
    Posts s name query body response exchanged where
  turns := by
    cases posted with
    | unfound | unreadable => exact Or.inl rfl
    | failed _ _ cause => exact Or.inr ⟨_, _, .error cause, rfl⟩
    | carriedOut _ _ changed => exact Or.inr ⟨_, _, .ok changed, rfl⟩
  succeeds := by
    cases posted with
    | unfound | unreadable | failed =>
      refine iff_of_false (problem_status _) ?_
      rintro ⟨sql, params, changed, same⟩
      simp [carrying] at same
    | carriedOut _ _ changed => exact iff_of_true rfl ⟨_, _, changed, rfl⟩
  unknown := by
    intro absent
    have refused := find_unknown .execute absent
    cases posted with
    | unfound problem =>
      cases refused.symm.trans problem
      exact ⟨rfl, rfl⟩
    | unreadable found | failed found | carriedOut found => cases refused.symm.trans found
  otherKind := by
    intro op present other
    have refused := find_otherKind present other
    cases posted with
    | unfound problem =>
      cases refused.symm.trans problem
      exact ⟨rfl, rfl⟩
    | unreadable found | failed found | carriedOut found => cases refused.symm.trans found
  unreadable := by
    intro unreadable
    obtain ⟨reason, refused, status⟩ := requestOf_unreadable query unreadable
    cases posted with
    | unfound problem =>
      refine ⟨rfl, fun present kind => ?_⟩
      cases (find_ok_iff.mpr ⟨present, kind⟩).symm.trans problem
    | unreadable _ problem =>
      cases refused.symm.trans problem
      exact ⟨rfl, fun _ _ => status⟩
    | failed _ read | carriedOut _ read => cases refused.symm.trans read
  asks := by
    intro op present kind readable
    have finds := find_ok_iff.mpr ⟨present, kind⟩
    obtain ⟨request, reads⟩ := requestOf_readable query readable
    cases posted with
    | unfound problem => cases finds.symm.trans problem
    | unreadable _ problem => cases reads.symm.trans problem
    | failed found read | carriedOut found read =>
      cases finds.symm.trans found
      exact ⟨_, _, read, rfl⟩

/-- Nothing about the discipline is seen in the headers. -/
private theorem Fetches.of_readable (origins : List String)
    (fetches : Fetches s name query response exchanged) :
    Fetches s name query (readable origins m response) exchanged := by
  have status := readable_status origins m response
  have body := readable_body origins m response
  exact ⟨fetches.turns, status ▸ fetches.succeeds, fun same => body ▸ fetches.passesOn same,
    fun absent => status ▸ fetches.unknown absent,
    fun present other => status ▸ fetches.otherKind present other,
    fun present kind failed => status ▸ fetches.unprepared present kind failed, fetches.asks⟩

private theorem Posts.of_readable (origins : List String)
    (posts : Posts s name query body response exchanged) :
    Posts s name query body (readable origins m response) exchanged := by
  have status := readable_status origins m response
  exact ⟨posts.turns, status ▸ posts.succeeds, fun absent => status ▸ posts.unknown absent,
    fun present other => status ▸ posts.otherKind present other,
    fun unreadable => status ▸ posts.unreadable unreadable, posts.asks⟩

theorem respond_get (route : Route.ofPath? m.path = some (.operation segment))
    (named : Service.decodeName segment = .ok name) (method : m.method = "GET") (state : σ) :
    (s.respond m).run state = (readable s.origins m ((s.list name m.query).run state).1,
      ((s.list name m.query).run state).2) := by
  have answer : s.answer m = s.list name m.query := by
    simp only [Service.answer, route, Service.onRoute, method, if_true, Service.get, named]
  rw [respond_run, answer, if_neg (by rw [method]; decide)]

theorem respond_post (route : Route.ofPath? m.path = some (.operation segment))
    (named : Service.decodeName segment = .ok name) (method : m.method = "POST")
    (fits : m.body.size ≤ bodyLimit) (state : σ) :
    (s.respond m).run state = (readable s.origins m ((s.execute name m.query m.body).run state).1,
      ((s.execute name m.query m.body).run state).2) := by
  have answer : s.answer m = s.execute name m.query m.body := by
    have other : ("POST" = "GET") = False ∧ ("POST" = "HEAD") = False := by decide
    simp only [Service.answer, route, Service.onRoute, method, other, if_false, if_true,
      Service.post, named, Nat.not_lt.mpr fits]
  rw [respond_run, answer, if_neg (by rw [method]; decide)]

theorem asked_get (route : Route.ofPath? m.path = some (.operation segment))
    (named : Service.decodeName segment = .ok name) (method : m.method = "GET") (state : σ) :
    asked s m state = (((watched s).list name m.query).run (state, [])).2.2 := by
  have run := respond_get (s := watched s) route named method (state, [])
  exact congrArg (fun ran => ran.2.2) run

theorem asked_post (route : Route.ofPath? m.path = some (.operation segment))
    (named : Service.decodeName segment = .ok name) (method : m.method = "POST")
    (fits : m.body.size ≤ bodyLimit) (state : σ) :
    asked s m state = (((watched s).execute name m.query m.body).run (state, [])).2.2 := by
  have run := respond_post (s := watched s) route named method fits (state, [])
  exact congrArg (fun ran => ran.2.2) run

/-- **The routes of the operations keep an order.** A GET counts, and lists with the same parameters
where the count is answered; a POST carries out one statement; neither asks anything for a request that
is refused, and the status is 200 exactly where the last question was answered. -/
theorem operation_routes_keep_order (s : Service σ) (m : Message) (state : σ)
    (route : Route.ofPath? m.path = some (.operation segment))
    (named : Service.decodeName segment = .ok name) :
    (m.method = "GET" →
      Fetches s name m.query ((s.respond m).run state).1 (asked s m state)) ∧
    (m.method = "POST" → m.body.size ≤ bodyLimit →
      Posts s name m.query m.body ((s.respond m).run state).1 (asked s m state)) := by
  -- The watched service gives the same response, and keeps the list besides.
  rw [← respond_watched]
  constructor
  · intro method
    have fetched := list_fetched s name m.query state
    rw [respond_get route named method, asked_get route named method]
    exact fetched.fetches.of_readable _
  · intro method fits
    have posted := execute_posted s name m.query m.body state
    rw [respond_post route named method fits, asked_post route named method fits]
    exact posted.posts.of_readable _

/-- A script by which everything goes well. -/
def thriving : Store.Script := ⟨.ok (), .ok 3, .ok [⟨[("id", .ofInt 1)]⟩], .ok 1⟩

/-- A request to post a body. -/
def posting (target : String) (body : ByteArray) : Message := .ofTarget "POST" target [] body

theorem noteService_keeps_order :
    Route.ofPath? (getting "/api/v1/operations/list?count=1").path = some (.operation "list") ∧
    Service.decodeName "list" = .ok "list" ∧
    (∃ sql page params total entries,
      asked noteService (getting "/api/v1/operations/list?count=1") ⟨thriving, []⟩ =
        [.count sql params (.ok total), .rows page params (.ok entries)] ∧
      Tells ((noteService.respond (getting "/api/v1/operations/list?count=1")).run
        ⟨thriving, []⟩).1.body total entries) ∧
    ((noteService.respond (getting "/api/v1/operations/list?count=1")).run ⟨thriving, []⟩).1.body =
      "\x7b\"totalResults\":3,\"itemsPerPage\":1,\"startIndex\":0,\"entry\":[\x7b\"id\":1\x7d]\x7d" ∧
    asked noteService (posting "/api/v1/operations/list" ByteArray.empty) ⟨thriving, []⟩ = [] ∧
    asked noteService (posting "/api/v1/operations/rename" ⟨#[91, 93]⟩) ⟨thriving, []⟩ = [] := by
  have route : Route.ofPath? (getting "/api/v1/operations/list?count=1").path =
    some (.operation "list") := by decide +kernel
  have named : Service.decodeName "list" = .ok "list" := rfl
  refine ⟨route, named, ?_, by decide +kernel, ?_, ?_⟩
  · have fetches := (operation_routes_keep_order noteService _ ⟨thriving, []⟩ route named).1 rfl
    obtain ⟨sql, page, params, total, entries, same⟩ := fetches.succeeds.mp (by decide +kernel)
    exact ⟨sql, page, params, total, entries, same, fetches.passesOn same⟩
  · have route : Route.ofPath? (posting "/api/v1/operations/list" ByteArray.empty).path =
      some (.operation "list") := by decide +kernel
    have posts := (operation_routes_keep_order noteService _ ⟨thriving, []⟩ route named).2 rfl
      (by decide)
    have present : noteService.registry.get? "list" =
      some (.listing "list" "SELECT id, title FROM notes") := by decide +kernel
    exact (posts.otherKind present (by rintro ⟨⟩)).1
  · have route : Route.ofPath? (posting "/api/v1/operations/rename" ⟨#[91, 93]⟩).path =
      some (.operation "rename") := by decide +kernel
    have named : Service.decodeName "rename" = .ok "rename" := rfl
    have posts := (operation_routes_keep_order noteService _ ⟨thriving, []⟩ route named).2 rfl
      (by decide)
    have list : bodyJson? ⟨#[91, 93]⟩ = some (.list []) := rfl
    refine (posts.unreadable ?_).1
    rintro (empty | ⟨members, object⟩)
    · cases empty
    · cases list.symm.trans object

end NamedSql.RouteDiscipline
