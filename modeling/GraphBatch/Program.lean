import GraphBatch.Client
import GraphBatch.Query

/-!
# Programs inside a transaction

A program is what a callback or a unit of work does while a transaction is open: it executes
statements inside the transaction and outside it, and it may turn the store's switches. It never
begins, commits or rolls back, and it sees of the store only the replies.

`Program.run` gives, beside the program's value and the state it leaves, an account of the
statements that succeeded, inside the transaction and outside. `pending_run` and `journal_run` tie
the account to the transaction and to the journal.
-/

namespace GraphBatch

inductive Program (α : Type) : Type where
  | done (value : α)
  /-- A statement inside the transaction. -/
  | inside (st : Statement) (next : Except Failure (List Row) → Program α)
  /-- A statement outside any transaction. -/
  | outside (st : Statement) (next : Except Failure (List Row) → Program α)
  | switch (switch : Store.Switch) (next : Program α)

namespace Program

variable {α β : Type}

def bind : Program α → (α → Program β) → Program β
  | done a, k => k a
  | inside st next, k => inside st fun reply => (next reply).bind k
  | outside st next, k => outside st fun reply => (next reply).bind k
  | switch s next, k => switch s (next.bind k)

instance : Monad Program where
  pure := done
  bind := bind

instance [Inhabited α] : Inhabited (Program α) := ⟨done default⟩

/-- The transaction the program runs in. -/
def transaction : Target Program :=
  .ofExecute fun st => inside st done

/-- The store itself, reached past the transaction. -/
def client : Target Program :=
  .ofExecute fun st => outside st done

def set (s : Store.Switch) : Program Unit :=
  switch s (done ())

end Program

/-- The statements that succeeded, each list in order of execution. -/
structure Account where
  inside : List Statement := []
  outside : List Statement := []

/-- What a run of a program leaves. -/
structure Program.Outcome (θ ω α : Type) where
  value : α
  transaction : θ
  store : ω
  account : Account

namespace Program

variable {θ ω α β : Type}

def run [Client ω θ] : Program α → θ → ω → Outcome θ ω α
  | done value, t, s => ⟨value, t, s, {}⟩
  | inside st next, t, s =>
    match Client.inside t s st with
    | (.ok rows, t, s) =>
      let rest := (next (.ok rows)).run t s
      { rest with account := { rest.account with inside := st :: rest.account.inside } }
    | (.error e, t, s) => (next (.error e)).run t s
  | outside st next, t, s =>
    match Client.outside s st with
    | (.ok rows, s) =>
      let rest := (next (.ok rows)).run t s
      { rest with account := { rest.account with outside := st :: rest.account.outside } }
    | (.error e, s) => (next (.error e)).run t s
  | switch sw next, t, s => next.run t (Client.set s sw)

/-- A program's transaction holds back, after what it held before, the statements that the account
names as inside. -/
theorem pending_run (p : Program α) (t : Transaction) (s : Store) :
    (p.run t s).transaction.pending = t.pending ++ (p.run t s).account.inside := by
  induction p generalizing t s with
  | done value => simp [run]
  | inside st next ih =>
    rcases h : t.execute s st with ⟨e | rows, t', s'⟩
    · obtain ⟨rfl, -⟩ := Transaction.execute_error h
      simpa [run, h] using ih _ t' s'
    · obtain ⟨rfl, -⟩ := Transaction.execute_ok h
      simp [run, h, ih]
  | outside st next ih => rcases h : s.execute st with ⟨e | rows, s'⟩ <;> simp [run, h, ih]
  | switch sw next ih => simpa [run] using ih t (s.set sw)

/-- A program adds to the journal the statements that the account names as outside. -/
theorem journal_run (p : Program α) (t : Transaction) (s : Store) :
    (p.run t s).store.journal = s.journal ++ (p.run t s).account.outside := by
  induction p generalizing t s with
  | done value => simp [run]
  | inside st next ih =>
    rcases h : t.execute s st with ⟨e | rows, t', s'⟩
    · obtain ⟨-, faults, rfl⟩ := Transaction.execute_error h
      simp [run, h, ih]
    · obtain ⟨-, rfl⟩ := Transaction.execute_ok h
      simp [run, h, ih]
  | outside st next ih =>
    rcases h : s.execute st with ⟨e | rows, s'⟩
    · simp [run, h, ih, Store.execute_error h]
    · simp [run, h, ih, Store.execute_ok h]
  | switch sw next ih => simp [run, ih]

/-- A program neither begins nor ends a transaction. -/
theorem log_run (p : Program α) (t : Transaction) (s : Store) : (p.run t s).store.log = s.log := by
  induction p generalizing t s with
  | done value => rfl
  | inside st next ih =>
    rcases h : t.execute s st with ⟨e | rows, t', s'⟩
    · obtain ⟨-, faults, rfl⟩ := Transaction.execute_error h
      simp [run, h, ih]
    · obtain ⟨-, rfl⟩ := Transaction.execute_ok h
      simp [run, h, ih]
  | outside st next ih =>
    rcases h : s.execute st with ⟨e | rows, s'⟩
    · simp [run, h, ih, Store.execute_error h]
    · simp [run, h, ih, Store.execute_ok h]
  | switch sw next ih => simp [run, ih]

end Program

/-- A program that also reads and leaves a state of its caller's: it can be run any number of
times, each run starting with what the one before left. -/
abbrev Callback (σ ρ : Type) := σ → Program (Except Failure ρ × σ)

end GraphBatch
