import GraphBatch.Proofs.Runner.Attempts

/-!
# What attempts leave in the journaling store

On the journaling store a body can account for its calls: its record then names the statements that a
call adds to the transaction and those that it journals past it (`Body.Accounted`). `Store.Books` says
what a series of attempts at such a body adds to the journal and to the counts of the log, and
`Runner.books_tries` that this is all it changes there.
-/

namespace GraphBatch

variable {κ σ ρ α : Type}

/-- The records of the body's calls name the statements that the transaction holds back and the ones
that are journaled past it; the transaction itself is neither ended nor replaced. -/
structure Body.Accounted (body : Body Transaction Store κ σ ρ) (inside outside : κ → List Statement) :
    Prop where
  pending : ∀ state t store, (body state t store).transaction.pending =
    t.pending ++ inside (body state t store).record
  journal : ∀ state t store, (body state t store).store.journal =
    store.journal ++ outside (body state t store).record
  log : ∀ state t store, (body state t store).store.log = store.log

theorem Callback.accounted_body (callback : Callback σ ρ) :
    callback.body.Accounted (·.inside) (·.outside) where
  pending state t store := (callback state).pending_run t store
  journal state t store := (callback state).journal_run t store
  log state t store := (callback state).log_run t store

namespace Attempt

/-- The attempt's transaction began. -/
def begins (a : Attempt κ ρ) : Bool :=
  a.record?.isSome

/-- The attempt's transaction was committed. -/
def commits (a : Attempt κ ρ) : Bool :=
  a.committed?.isSome

/-- The statements that an attempt leaves in the journal. -/
def journaled (inside outside : κ → List Statement) (a : Attempt κ ρ) : List Statement :=
  (a.record?.map outside).getD [] ++ (a.committed?.map inside).getD []

theorem journaled_ended (inside outside : κ → List Statement) (record : κ) (ending : Ending ρ) :
    (ended record ending).journaled inside outside =
      outside record ++ if (ended record ending).commits then inside record else [] := by
  cases ending <;> rfl

end Attempt

/-- What attempts add to the journal and to the log. -/
structure Store.Books (inside outside : κ → List Statement) (store : Store) (as : List (Attempt κ ρ))
    (store' : Store) : Prop where
  journal : store'.journal = store.journal ++ as.flatMap (Attempt.journaled inside outside)
  begun : store'.log.begun = store.log.begun + as.countP Attempt.begins
  committed : store'.log.committed = store.log.committed + as.countP Attempt.commits
  /-- A transaction that began and did not commit was rolled back. -/
  rolledBack : store'.log.rolledBack =
    store.log.rolledBack + as.countP fun a => a.begins && !a.commits

namespace Store.Books

variable {inside outside : κ → List Statement} {store store' store'' : Store}
  {as as' : List (Attempt κ ρ)}

theorem nil (store : Store) : store.Books inside outside ([] : List (Attempt κ ρ)) store where
  journal := by simp
  begun := rfl
  committed := rfl
  rolledBack := rfl

theorem append (h : store.Books inside outside as store') (h' : store'.Books inside outside as' store'') :
    store.Books inside outside (as ++ as') store'' where
  journal := by rw [h'.journal, h.journal, List.flatMap_append, List.append_assoc]
  begun := by rw [h'.begun, h.begun, List.countP_append, Nat.add_assoc]
  committed := by rw [h'.committed, h.committed, List.countP_append, Nat.add_assoc]
  rolledBack := by rw [h'.rolledBack, h.rolledBack, List.countP_append, Nat.add_assoc]

end Store.Books

namespace Runner

variable {body : Body Transaction Store κ σ ρ} {accepts : ρ → Bool} {inside outside : κ → List Statement}
  {state state' : σ} {store store' : Store}

/-- The end of a transaction: a commit journals what was held back, and anything else rolls it back. -/
theorem store_conclude {call : Call Transaction Store κ σ ρ} {ending : Ending ρ}
    (h : conclude accepts call = (ending, store')) :
    store'.journal = call.store.journal ++
        (if (Attempt.ended call.record ending).commits then call.transaction.pending else []) ∧
      store'.log = if (Attempt.ended call.record ending).commits then
          { call.store.log with committed := call.store.log.committed + 1 }
        else { call.store.log with rolledBack := call.store.log.rolledBack + 1 } := by
  have cases := conclude_cases h
  cases ending with
  | committed result =>
    obtain ⟨-, -, committed⟩ := cases
    rw [Transaction.commit_ok committed]
    exact ⟨rfl, rfl⟩
  | commitFailed result e =>
    obtain ⟨-, -, refused⟩ := cases
    rw [(Transaction.commit_error refused).2]
    exact ⟨(List.append_nil _).symm, rfl⟩
  | declined result =>
    obtain ⟨-, -, undone⟩ := cases
    cases undone
    exact ⟨(List.append_nil _).symm, rfl⟩
  | rolledBack e =>
    obtain ⟨-, undone⟩ := cases
    cases undone
    exact ⟨(List.append_nil _).symm, rfl⟩
  | rollbackFailed e => cases cases

/-- An attempt on a store that is online is made in a transaction. -/
theorem begins_of_online {a : Attempt κ ρ} (online : store.offline = false)
    (h : attempt body accepts state store = (a, state', store')) : a.begins = true := by
  cases a with
  | unbegun e =>
    obtain ⟨-, refused⟩ := attempt_unbegun h
    rw [Store.client_begin, Store.begin, online] at refused
    cases refused
  | ended record ending => rfl

/-- An attempt is entered in the books of the store as one transaction, or as none. -/
theorem books_attempt (accounted : body.Accounted inside outside) {a : Attempt κ ρ}
    (h : attempt body accepts state store = (a, state', store')) :
    store.Books inside outside [a] store' := by
  cases a with
  | unbegun e =>
    obtain ⟨-, refused⟩ := attempt_unbegun h
    obtain ⟨-, rfl⟩ := Store.begin_error refused
    exact ⟨(List.append_nil _).symm, rfl, rfl, rfl⟩
  | ended record ending =>
    obtain ⟨t, begun, began, recorded, -, concluded⟩ := attempt_ended h
    obtain ⟨rfl, begun_eq⟩ := Store.begin_ok began
    obtain ⟨journal, log⟩ := store_conclude concluded
    rw [accounted.pending, accounted.journal, recorded, List.nil_append] at journal
    rw [accounted.log, recorded] at log
    rw [begun_eq] at journal log
    refine ⟨?_, ?_, ?_, ?_⟩
    · rw [journal, List.flatMap_singleton, Attempt.journaled_ended, List.append_assoc]
    · rw [log]
      split <;> rfl
    · rw [log, List.countP_singleton]
      split <;> rfl
    · rw [log, List.countP_singleton]
      split <;> rename_i commits <;> simp [commits, Attempt.begins]

/-- The books of a series of attempts. -/
theorem books_tries (accounted : body.Accounted inside outside) {as : List (Attempt κ ρ)}
    (h : Tries body accepts state store as state' store') : store.Books inside outside as store' := by
  induction h with
  | nil state store => exact .nil store
  | cons step _ ih => exact (books_attempt accounted step).append ih

end Runner

end GraphBatch
