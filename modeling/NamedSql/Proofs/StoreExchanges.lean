import NamedSql.Proofs.ErrorSecrecy

/-! What is asked of a store, and what it answers, is put on a list. The list takes no part in the
answers, so a service with such a store responds as it does without, and the list tells what the
service asks of the store itself. -/
namespace NamedSql.StoreExchanges
open Http ErrorSecrecy

/-- A question to a store and its answer. -/
inductive Exchange where
  | ping (answer : Except Store.Error Unit)
  | count (sql : String) (params : Params) (answer : Except Store.Error Int64)
  | rows (sql : String) (params : Params) (answer : Except Store.Error (List Row))
  | execute (sql : String) (params : Params) (answer : Except Store.Error UInt64)

variable {σ α β : Type}

/-- A call that is put on the list with its answer. -/
def noted (call : StateM σ α) (exchange : α → Exchange) : StateM (σ × List Exchange) α :=
  fun (state, exchanges) =>
    let (answer, later) := call.run state
    (answer, later, exchanges ++ [exchange answer])

/-- The store with a list of its exchanges. -/
def observed (store : Store σ) : Store (σ × List Exchange) where
  dialect := store.dialect
  ping := noted store.ping .ping
  count sql params := noted (store.count sql params) (.count sql params)
  rows sql params := noted (store.rows sql params) (.rows sql params)
  execute sql params := noted (store.execute sql params) (.execute sql params)

/-- The exchanges with a store from a state on, while something uses it. -/
def exchanges (store : Store σ) (use : Store (σ × List Exchange) → StateM (σ × List Exchange) β)
    (state : σ) : List Exchange := ((use (observed store)).run (state, [])).2.2

/-- The service with a list of the exchanges with its store. -/
def watched (s : Service σ) : Service (σ × List Exchange) := ⟨observed s.store, s.registry, s.origins⟩

/-- The exchanges of a service with its store while it responds to a message. -/
def asked (s : Service σ) (m : Message) (state : σ) : List Exchange :=
  exchanges s.store (fun store => Service.respond ⟨store, s.registry, s.origins⟩ m) state

theorem noted_run (call : StateM σ α) (exchange : α → Exchange) (state : σ)
    (before : List Exchange) : (noted call exchange).run (state, before) =
      ((call.run state).1, (call.run state).2, before ++ [exchange (call.run state).1]) := rfl

/-- A state, and the same with a list. -/
def Listed (state : σ) (listed : σ × List Exchange) : Prop := listed.1 = state

private theorem noted_alike {E : Store.Error → Store.Error → Prop} (same : ∀ e, E e e)
    (call : StateM σ (Except Store.Error α)) (exchange : Except Store.Error α → Exchange)
    {state : σ} {listed : σ × List Exchange} (related : Listed state listed) :
    Alike E Listed Listed (call.run state) ((noted call exchange).run listed) := by
  obtain ⟨later, before⟩ := listed
  obtain rfl : later = state := related
  rw [noted_run]
  rcases call.run later with ⟨cause | a, last⟩
  · exact .failed (same cause) rfl
  · exact .answered rfl

theorem observed_alike (store : Store σ) : AlikeButErrors Listed Listed store (observed store) where
  dialect := rfl
  count related _ _ := noted_alike (fun _ => Or.inl rfl) _ _ related
  rows related _ _ := noted_alike (fun _ => Or.inl rfl) _ _ related
  execute related _ _ := noted_alike (fun _ => Or.inl rfl) _ _ related

/-- A service that is observed responds as it does alone. -/
theorem respond_watched (s : Service σ) (m : Message) (state : σ) :
    (((watched s).respond m).run (state, [])).1 = ((s.respond m).run state).1 := by
  have pings : PingsAlike Listed Listed s.store (observed s.store) :=
    fun related => noted_alike (fun _ => trivial) _ _ related
  have same := respond_same s.registry s.origins (m := m) (fun _ => observed_alike s.store)
    (fun _ => pings) (rfl : Listed state (state, []))
  exact same.1.symm

end NamedSql.StoreExchanges
