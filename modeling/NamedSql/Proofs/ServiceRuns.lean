import NamedSql.Http.Service
import NamedSql.Proofs.OperationRuns

/-! What the service does with a message for each outcome of the operation behind it. An outcome
becomes a response without another look at the store, and a header for the page that asked changes
neither the status nor the body. -/
namespace NamedSql.ServiceRuns
open Http OperationRuns

variable {σ α : Type}

/-- The response that reports how an operation ended. -/
def report (result : α → Json) : Except Fault α → Response
  | .error fault => (Problem.ofFault fault).response
  | .ok a => .ofJson 200 (result a)

theorem list_run (s : Service σ) (name query : String) (state : σ) :
    (s.list name query).run state =
      match s.find name .queryAll with
      | .error problem => (problem.response, state)
      | .ok op =>
        let ran := (op.queryAll s.store (.ofPairs (Form.pairs query))).run state
        (report Envelope.toJson ran.1, ran.2) := by
  rw [Service.list]
  cases s.find name .queryAll with
  | error problem => rfl
  | ok op =>
    simp only [run_bind]
    cases ((op.queryAll s.store (.ofPairs (Form.pairs query))).run state).1 with
    | error fault => rfl
    | ok envelope => rfl

theorem execute_run (s : Service σ) (name query : String) (body : ByteArray) (state : σ) :
    (s.execute name query body).run state =
      match s.find name .execute with
      | .error problem => (problem.response, state)
      | .ok op =>
        match Service.requestOf query body with
        | .error problem => (problem.response, state)
        | .ok request =>
          let ran := (op.execute s.store request).run state
          (report (fun _ => Service.succeeded) ran.1, ran.2) := by
  rw [Service.execute]
  cases s.find name .execute with
  | error problem => rfl
  | ok op =>
    cases Service.requestOf query body with
    | error problem => rfl
    | ok request =>
      simp only [run_bind]
      cases ((op.execute s.store request).run state).1 with
      | error fault => rfl
      | ok done => rfl

theorem health_run (s : Service σ) (state : σ) : s.health.run state =
    match s.store.ping.run state with
    | (.error _, later) => (Problem.databaseUnreachable.response, later)
    | (.ok (), later) =>
      (.ofJson 200 (.object [("status", .text "ok"), ("version", .text About.version)]), later) := by
  rw [Service.health]
  simp only [run_bind]
  rcases s.store.ping.run state with ⟨_ | _, later⟩
  · rfl
  · rfl

/-- The response for the page that a message comes from, if its origin is one of the service's. -/
def readable (origins : List String) (m : Message) (response : Response) : Response :=
  match m.header? "origin" with
  | none => response
  | some origin =>
    if origin ∈ origins then response.withHeader "access-control-allow-origin" origin else response

theorem readable_status (origins : List String) (m : Message) (response : Response) :
    (readable origins m response).status = response.status := by
  unfold readable
  split
  · rfl
  · split <;> rfl

theorem readable_body (origins : List String) (m : Message) (response : Response) :
    (readable origins m response).body = response.body := by
  unfold readable
  split
  · rfl
  · split <;> rfl

theorem respond_run (s : Service σ) (m : Message) (state : σ) : (s.respond m).run state =
    if m.method = "OPTIONS" then (readable s.origins m (Service.permissions m.path), state)
    else (readable s.origins m ((s.answer m).run state).1, ((s.answer m).run state).2) := by
  have opened (response : Response) (later : σ) :
      (match m.header? "origin" with
        | none => (pure response : StateM σ Response)
        | some origin =>
          if origin ∈ s.origins then
            pure (response.withHeader "access-control-allow-origin" origin)
          else pure response).run later = (readable s.origins m response, later) := by
    unfold readable
    split
    · rfl
    · split <;> rfl
  rw [Service.respond]
  split
  · exact opened (Service.permissions m.path) state
  · rw [run_bind]
    exact opened _ _

end NamedSql.ServiceRuns
