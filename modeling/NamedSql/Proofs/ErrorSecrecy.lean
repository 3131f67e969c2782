import NamedSql.Proofs.ServiceRuns
import NamedSql.Store.Scripted

/-! What a store says when it fails stays inside the service. Two stores that behave alike except for
the errors they fail with are served with the same responses, message after message: the service tells
its clients that the database failed and no more. Only a name that nothing is bound to is passed on,
since there the operation is at fault and not the store; and of the health of the database not even
that. -/
namespace NamedSql.ErrorSecrecy
open Http OperationRuns ServiceRuns

variable {σ τ α β : Type} {R S : σ → τ → Prop} {E : Store.Error → Store.Error → Prop}

/-- Two answers that differ at most in the error, `E` saying which errors may stand for each other.
They leave the stores in states related by `R`, or by `S` after an error. -/
inductive Alike (E : Store.Error → Store.Error → Prop) (R S : σ → τ → Prop) :
    Except Store.Error α × σ → Except Store.Error α × τ → Prop
  | answered {a : α} {s : σ} {t : τ} (still : R s t) : Alike E R S (.ok a, s) (.ok a, t)
  | failed {cause other : Store.Error} {s : σ} {t : τ} (errors : E cause other) (left : S s t) :
    Alike E R S (.error cause, s) (.error other, t)

/-- Errors that a client is not to tell apart: equal ones, and any two that find no name unbound. -/
def Interchangeable (cause other : Store.Error) : Prop :=
  cause = other ∨ ∀ name, cause ≠ .unbound name ∧ other ≠ .unbound name

/-- Two stores that differ at most in the errors that their calls fail with. -/
structure AlikeButErrors (R S : σ → τ → Prop) (first : Store σ) (second : Store τ) : Prop where
  dialect : first.dialect = second.dialect
  count : ∀ {s t}, R s t → ∀ sql params, Alike Interchangeable R S
    ((first.count sql params).run s) ((second.count sql params).run t)
  rows : ∀ {s t}, R s t → ∀ sql params, Alike Interchangeable R S
    ((first.rows sql params).run s) ((second.rows sql params).run t)
  execute : ∀ {s t}, R s t → ∀ sql params, Alike Interchangeable R S
    ((first.execute sql params).run s) ((second.execute sql params).run t)

/-- Two stores that are there alike, or fail to be for any reasons. -/
def PingsAlike (R S : σ → τ → Prop) (first : Store σ) (second : Store τ) : Prop :=
  ∀ {s t}, R s t → Alike (fun _ _ => True) R S (first.ping.run s) (second.ping.run t)

/-- Two runs that give the same and leave their stores related. -/
def Same (R S : σ → τ → Prop) (first : β × σ) (second : β × τ) : Prop :=
  first.1 = second.1 ∧ (R first.2 second.2 ∨ S first.2 second.2)

/-- What a client may learn of how an operation ended. -/
def told (ran : Except Fault α × σ) : Except Problem α × σ := (ran.1.mapError Problem.ofFault, ran.2)

theorem report_told (result : α → Json) {first : Except Fault α × σ} {second : Except Fault α × τ}
    (same : Same R S (told first) (told second)) :
    Same R S (report result first.1, first.2) (report result second.1, second.2) := by
  obtain ⟨outcomes, related⟩ := same
  refine ⟨?_, related⟩
  obtain ⟨one, s⟩ := first
  obtain ⟨two, t⟩ := second
  cases one with
  | error fault =>
    cases two with
    | error other =>
      have problems : Problem.ofFault fault = Problem.ofFault other := Except.error.inj outcomes
      exact congrArg Problem.response problems
    | ok b => cases outcomes
  | ok a =>
    cases two with
    | error other => cases outcomes
    | ok b =>
      cases outcomes
      rfl

/-- The problem with a listing's store does not say which error it was. -/
theorem ofFault_store {cause other : Store.Error} (errors : Interchangeable cause other) :
    Problem.ofFault (.store cause) = Problem.ofFault (.store other) := by
  rcases errors with rfl | nameless
  · rfl
  · have failed (e : Store.Error) (named : ∀ name, e ≠ .unbound name) :
        Problem.ofFault (.store e) = .databaseFailed := by
      cases e with
      | unbound name => exact absurd rfl (named name)
      | failed _ _ | config _ => rfl
    rw [failed cause fun name => (nameless name).1, failed other fun name => (nameless name).2]

theorem ofFault_statement {cause other : Store.Error} (errors : Interchangeable cause other) :
    Problem.ofFault (statementFault cause) = Problem.ofFault (statementFault other) := by
  rcases errors with rfl | nameless
  · rfl
  · have failed (e : Store.Error) (named : ∀ name, e ≠ .unbound name) :
        Problem.ofFault (statementFault e) =
          .statementFailed "Statement execution resulted in failure" := by
      cases e with
      | unbound name => exact absurd rfl (named name)
      | failed _ _ | config _ => rfl
    rw [failed cause fun name => (nameless name).1, failed other fun name => (nameless name).2]

variable {first : Store σ} {second : Store τ} {s : σ} {t : τ}

theorem queryAll_same (alike : AlikeButErrors R S first second) (related : R s t) (op : Operation)
    (request : Request) : Same R S (told ((op.queryAll first request).run s))
      (told ((op.queryAll second request).run t)) := by
  cases ready : op.prepare request with
  | error fault =>
    rw [queryAll_unprepared ready, queryAll_unprepared ready]
    exact ⟨rfl, Or.inl related⟩
  | ok prepared =>
    have counted := alike.count related (second.dialect.counted prepared.statement.text)
      prepared.statement.params
    rw [queryAll_run ready, queryAll_run ready, alike.dialect]
    generalize (first.count _ _).run s = one at counted ⊢
    generalize (second.count _ _).run t = two at counted ⊢
    cases counted with
    | failed errors left => exact ⟨congrArg Except.error (ofFault_store errors), Or.inr left⟩
    | @answered total s t still =>
      have listed := alike.rows still (second.dialect.limited prepared.statement.text
        (op.page request).count (op.page request).start) prepared.statement.params
      simp only
      generalize (first.rows _ _).run s = one at listed ⊢
      generalize (second.rows _ _).run t = two at listed ⊢
      cases listed with
      | failed errors left => exact ⟨congrArg Except.error (ofFault_store errors), Or.inr left⟩
      | answered still => exact ⟨rfl, Or.inl still⟩

theorem statement_same (alike : AlikeButErrors R S first second) (related : R s t) (op : Operation)
    (request : Request) : Same R S (told ((op.execute first request).run s))
      (told ((op.execute second request).run t)) := by
  have executed := alike.execute related (Statement.bind op.sql request).text
    (Statement.bind op.sql request).params
  rw [statement_run, statement_run]
  generalize (first.execute _ _).run s = one at executed ⊢
  generalize (second.execute _ _).run t = two at executed ⊢
  cases executed with
  | failed errors left => exact ⟨congrArg Except.error (ofFault_statement errors), Or.inr left⟩
  | answered still => exact ⟨rfl, Or.inl still⟩

/-- The service of a store. -/
abbrev serving (store : Store σ) (registry : Registry) (origins : List String) : Service σ :=
  ⟨store, registry, origins⟩

variable (registry : Registry) (origins : List String)

theorem list_same (alike : AlikeButErrors R S first second) (related : R s t)
    (name query : String) :
    Same R S (((serving first registry origins).list name query).run s)
      (((serving second registry origins).list name query).run t) := by
  rw [list_run, list_run]
  have find : (serving first registry origins).find name .queryAll =
      (serving second registry origins).find name .queryAll := rfl
  rw [find]
  cases (serving second registry origins).find name .queryAll with
  | error problem => exact ⟨rfl, Or.inl related⟩
  | ok op => exact report_told Envelope.toJson (queryAll_same alike related op _)

theorem execute_same (alike : AlikeButErrors R S first second) (related : R s t)
    (name query : String) (body : ByteArray) :
    Same R S (((serving first registry origins).execute name query body).run s)
      (((serving second registry origins).execute name query body).run t) := by
  rw [execute_run, execute_run]
  have find : (serving first registry origins).find name .execute =
      (serving second registry origins).find name .execute := rfl
  rw [find]
  cases (serving second registry origins).find name .execute with
  | error problem => exact ⟨rfl, Or.inl related⟩
  | ok op =>
    cases Service.requestOf query body with
    | error problem => exact ⟨rfl, Or.inl related⟩
    | ok request => exact report_told _ (statement_same alike related op request)

theorem health_same (alike : PingsAlike R S first second) (related : R s t) :
    Same R S ((serving first registry origins).health.run s)
      ((serving second registry origins).health.run t) := by
  have pinged := alike related
  rw [health_run, health_run]
  generalize first.ping.run s = one at pinged ⊢
  generalize second.ping.run t = two at pinged ⊢
  cases pinged with
  | failed _ left => exact ⟨rfl, Or.inr left⟩
  | answered still => exact ⟨rfl, Or.inl still⟩

private theorem pure_same (response : Response) (related : R s t) :
    Same R S ((pure response : StateM σ Response).run s)
      ((pure response : StateM τ Response).run t) :=
  ⟨rfl, Or.inl related⟩

theorem get_same {route : Route} (calls : route ≠ .health → AlikeButErrors R S first second)
    (pings : route = .health → PingsAlike R S first second) (related : R s t) (query : String) :
    Same R S (((serving first registry origins).get query route).run s)
      (((serving second registry origins).get query route).run t) := by
  cases route with
  | page | description | operations => exact pure_same _ related
  | health => exact health_same registry origins (pings rfl) related
  | operation segment =>
    rw [Service.get, Service.get]
    cases Service.decodeName segment with
    | error response => exact pure_same response related
    | ok name => exact list_same registry origins (calls (by rintro ⟨⟩)) related name query

theorem post_same {route : Route} (calls : route ≠ .health → AlikeButErrors R S first second)
    (related : R s t) (query : String) (body : ByteArray) :
    Same R S (((serving first registry origins).post query body route).run s)
      (((serving second registry origins).post query body route).run t) := by
  cases route with
  | page | description | health | operations => exact pure_same _ related
  | operation segment =>
    rw [Service.post, Service.post]
    cases Service.decodeName segment with
    | error response => exact pure_same response related
    | ok name =>
      simp only
      split
      · exact pure_same _ related
      · exact execute_same registry origins (calls (by rintro ⟨⟩)) related name query body

/-- What holds of the responses to a method holds of them without their bodies. -/
private theorem withoutBody_same {one : StateM σ Response} {two : StateM τ Response}
    (same : Same R S (one.run s) (two.run t)) :
    Same R S ((do return (← one).withoutBody : StateM σ Response).run s)
      ((do return (← two).withoutBody : StateM τ Response).run t) :=
  ⟨congrArg Response.withoutBody same.1, same.2⟩

theorem answer_same {m : Message}
    (calls : Route.ofPath? m.path ≠ some .health → AlikeButErrors R S first second)
    (pings : Route.ofPath? m.path = some .health → PingsAlike R S first second)
    (related : R s t) :
    Same R S (((serving first registry origins).answer m).run s)
      (((serving second registry origins).answer m).run t) := by
  rw [Service.answer, Service.answer]
  cases found : Route.ofPath? m.path with
  | none => exact pure_same _ related
  | some route =>
    have calls (other : route ≠ .health) : AlikeButErrors R S first second :=
      calls fun same => other (Option.some.inj (found.symm.trans same))
    have pings (same : route = .health) : PingsAlike R S first second :=
      pings (found.trans (congrArg some same))
    have got := get_same registry origins calls pings related m.query
    simp only [Service.onRoute]
    split
    · exact got
    · split
      · exact withoutBody_same got
      · split
        · exact post_same registry origins calls related m.query m.body
        · exact pure_same _ related

/-- A step of the service: the same response to the same message. -/
theorem respond_same {m : Message}
    (calls : Route.ofPath? m.path ≠ some .health → AlikeButErrors R S first second)
    (pings : Route.ofPath? m.path = some .health → PingsAlike R S first second)
    (related : R s t) :
    Same R S (((serving first registry origins).respond m).run s)
      (((serving second registry origins).respond m).run t) := by
  have answered := answer_same registry origins calls pings related
  rw [respond_run, respond_run]
  split
  · exact ⟨rfl, Or.inl related⟩
  · exact ⟨congrArg (readable origins m) answered.1, answered.2⟩

/-- The responses of a service to messages, one after the other. -/
def conversation (service : Service σ) (messages : List Message) : StateM σ (List Response) :=
  messages.mapM service.respond

theorem conversation_cons (service : Service σ) (m : Message) (rest : List Message) (state : σ) :
    ((conversation service (m :: rest)).run state).1 =
      ((service.respond m).run state).1 ::
        ((conversation service rest).run ((service.respond m).run state).2).1 := by
  rw [conversation, List.mapM_cons]
  rfl

/-- A whole conversation, where the stores behave alike after an error too. -/
theorem conversation_same (alike : AlikeButErrors R S first second)
    (pings : PingsAlike R S first second) (returns : ∀ {s t}, S s t → R s t)
    (messages : List Message) (related : R s t) :
    ((conversation (serving first registry origins) messages).run s).1 =
      ((conversation (serving second registry origins) messages).run t).1 := by
  induction messages generalizing s t with
  | nil => rfl
  | cons m rest ih =>
    obtain ⟨responses, left⟩ := respond_same registry origins (m := m) (fun _ => alike)
      (fun _ => pings) related
    rw [conversation_cons, conversation_cons, responses, ih (left.elim id returns)]

/-- **Errors of the store never reach the client.** Stores that differ at most in the errors they fail
with are served with the same response to any message but one for their health, and that one with the
same response whatever the pings fail with. If they are alike again after an error, they are served
alike for any number of messages. -/
theorem store_errors_stay_inside (first : Store σ) (second : Store τ) (related : R s t) :
    (AlikeButErrors R S first second → ∀ m, Route.ofPath? m.path ≠ some .health →
      ((Service.respond ⟨first, registry, origins⟩ m).run s).1 =
        ((Service.respond ⟨second, registry, origins⟩ m).run t).1) ∧
    (PingsAlike R S first second → ∀ m, Route.ofPath? m.path = some .health →
      ((Service.respond ⟨first, registry, origins⟩ m).run s).1 =
        ((Service.respond ⟨second, registry, origins⟩ m).run t).1) ∧
    (AlikeButErrors R S first second → PingsAlike R S first second → (∀ {s t}, S s t → R s t) →
      ∀ messages, ((conversation ⟨first, registry, origins⟩ messages).run s).1 =
        ((conversation ⟨second, registry, origins⟩ messages).run t).1) := by
  refine ⟨fun alike m route => ?_, fun pings m route => ?_, fun alike pings returns messages => ?_⟩
  · exact (respond_same registry origins (fun _ => alike) (fun health => absurd health route)
      related).1
  · exact (respond_same registry origins (fun other => absurd route other) (fun _ => pings)
      related).1
  · exact conversation_same registry origins alike pings returns messages related

/-- A registry with a listing and a statement. -/
def noteRegistry : Registry := ⟨.ofList
  [("list", .listing "list" "SELECT id, title FROM notes"),
    ("rename", .statement "rename" "UPDATE notes SET title = \x7btitle\x7d WHERE id = \x7bid\x7d")]⟩

/-- A script by which a database counts, and fails at everything else. -/
def ailing (cause : Store.Error) : Store.Script := ⟨.error cause, .ok 3, .error cause, .error cause⟩

/-- Stores that ail of two errors. -/
def Ailing (cause other : Store.Error) (s t : Store.Scripted) : Prop :=
  s.script = ailing cause ∧ t.script = ailing other

private theorem scripted_alike {cause other : Store.Error} {s t : Store.Scripted}
    (ail : Ailing cause other s t) (same : ∀ e, E e e) (question : Store.Question) (sql : String)
    (params : Params) {read : Store.Script → Except Store.Error α}
    (reads : ∀ {x y}, Ailing cause other x y → Alike E (Ailing cause other) (Ailing cause other)
      (read (ailing cause), x) (read (ailing other), y)) :
    Alike E (Ailing cause other) (Ailing cause other)
      ((Store.Scripted.answer .sqlite question sql params read).run s)
      ((Store.Scripted.answer .sqlite question sql params read).run t) := by
  obtain ⟨first, calls⟩ := s
  obtain ⟨second, others⟩ := t
  obtain ⟨rfl, rfl⟩ := ail
  change Alike E _ _ ((Sql.Dialect.sqlite.expand sql params).bind _, _)
    ((Sql.Dialect.sqlite.expand sql params).bind _, _)
  cases Sql.Dialect.sqlite.expand sql params with
  | error unbound => exact .failed (same unbound) ⟨rfl, rfl⟩
  | ok expansion => exact reads ⟨rfl, rfl⟩

theorem ailing_alike {cause other : Store.Error} (errors : Interchangeable cause other) :
    AlikeButErrors (Ailing cause other) (Ailing cause other) (Store.scripted .sqlite)
      (Store.scripted .sqlite) where
  dialect := rfl
  count ail _ _ := scripted_alike ail (fun _ => Or.inl rfl) _ _ _ .answered
  rows ail _ _ := scripted_alike ail (fun _ => Or.inl rfl) _ _ _ (.failed errors)
  execute ail _ _ := scripted_alike ail (fun _ => Or.inl rfl) _ _ _ (.failed errors)

theorem ailing_pings (cause other : Store.Error) :
    PingsAlike (Ailing cause other) (Ailing cause other) (Store.scripted .sqlite)
      (Store.scripted .sqlite) :=
  fun ail => scripted_alike ail (fun _ => trivial) _ _ _ (.failed trivial)

/-- A request for a resource. -/
def getting (target : String) : Message := .ofTarget "GET" target [] ByteArray.empty

/-- The service of the notes on a scripted store. -/
def noteService : Service Store.Scripted := ⟨Store.scripted .sqlite, noteRegistry, []⟩

/-- An error that tells of a table. -/
def telling : Store.Error := .failed .sqlite (.refused "no such table: secrets")

theorem ailing_responses_alike :
    Ailing telling (.failed .postgres .poolClosed) ⟨ailing telling, []⟩
      ⟨ailing (.failed .postgres .poolClosed), []⟩ ∧
    ((noteService.respond (getting "/api/v1/operations/list")).run ⟨ailing telling, []⟩).1 =
      ((noteService.respond (getting "/api/v1/operations/list")).run
        ⟨ailing (.failed .postgres .poolClosed), []⟩).1 ∧
    ((noteService.respond (getting "/api/v1/health")).run ⟨ailing (.unbound "id"), []⟩).1 =
      ((noteService.respond (getting "/api/v1/health")).run ⟨ailing telling, []⟩).1 ∧
    ((conversation noteService [getting "/api/v1/operations/list", getting "/api/v1/health"]).run
        ⟨ailing telling, []⟩).1 =
      ((conversation noteService [getting "/api/v1/operations/list", getting "/api/v1/health"]).run
        ⟨ailing (.failed .postgres .poolClosed), []⟩).1 := by
  have ail (cause other : Store.Error) : Ailing cause other ⟨ailing cause, []⟩ ⟨ailing other, []⟩ :=
    ⟨rfl, rfl⟩
  have secret (cause other : Store.Error) := store_errors_stay_inside noteRegistry []
    (Store.scripted .sqlite) (Store.scripted .sqlite) (S := Ailing cause other) (ail cause other)
  have nameless : Interchangeable telling (.failed .postgres .poolClosed) :=
    Or.inr fun name => ⟨by rintro ⟨⟩, by rintro ⟨⟩⟩
  refine ⟨ail _ _, ?_, ?_, ?_⟩
  · exact (secret _ _).1 (ailing_alike nameless) _ (by decide +kernel)
  · exact (secret _ _).2.1 (ailing_pings _ _) _ (by decide +kernel)
  · exact (secret _ _).2.2 (ailing_alike nameless) (ailing_pings _ _) id _

end NamedSql.ErrorSecrecy
