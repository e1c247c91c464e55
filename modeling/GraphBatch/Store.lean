import GraphBatch.Row

/-!
# The journaling store

Statements are not interpreted. The store keeps a journal of committed statements and answers a
statement with the rows registered for its text. A statement outside a transaction is journaled at
once; a transaction holds its statements back until it commits.

Three switches make operations fail: an offline store refuses to begin, to execute and to commit, a
store that rejects commits refuses only these, and pending transient faults fail one transactional
statement each.
-/

namespace GraphBatch

abbrev Params := Fields Json

structure Statement where
  text : String
  params : Params := []

/-- Counts of transaction events. -/
@[ext]
structure Log where
  begun : Nat := 0
  committed : Nat := 0
  rolledBack : Nat := 0
deriving Repr, DecidableEq

structure Store where
  journal : List Statement := []
  /-- Registered rows by statement text, the latest registration first. -/
  responses : List (String × List Row) := []
  log : Log := {}
  offline : Bool := false
  rejectsCommits : Bool := false
  /-- Transactional statements still to fail. -/
  faults : Nat := 0

structure Transaction where
  pending : List Statement := []

namespace Store

inductive Switch where
  | offline (on : Bool)
  | rejectCommits (on : Bool)
  | faults (count : Nat)
deriving Repr, DecidableEq

def set (s : Store) : Switch → Store
  | .offline on => { s with offline := on }
  | .rejectCommits on => { s with rejectsCommits := on }
  | .faults count => { s with faults := count }

def rowsFor (s : Store) (text : String) : List Row :=
  (s.responses.lookup text).getD []

/-- Registers the rows for exactly this text. -/
def respond (s : Store) (text : String) (rows : List Row) : Store :=
  { s with responses := (text, rows) :: s.responses }

/-- Executes a statement outside any transaction. -/
def execute (s : Store) (st : Statement) : Except Failure (List Row) × Store :=
  if s.offline then (.error .storeOffline, s)
  else (.ok (s.rowsFor st.text), { s with journal := s.journal ++ [st] })

def begin (s : Store) : Except Failure Transaction × Store :=
  if s.offline then (.error .storeOffline, s)
  else (.ok {}, { s with log := { s.log with begun := s.log.begun + 1 } })

@[simp] theorem journal_set (s : Store) (switch : Switch) : (s.set switch).journal = s.journal := by
  cases switch <;> rfl

@[simp] theorem log_set (s : Store) (switch : Switch) : (s.set switch).log = s.log := by
  cases switch <;> rfl

theorem execute_ok {s s' : Store} {st : Statement} {rows : List Row}
    (h : s.execute st = (.ok rows, s')) : s' = { s with journal := s.journal ++ [st] } := by
  unfold execute at h
  split at h
  · cases h
  · cases h
    rfl

theorem execute_error {s s' : Store} {st : Statement} {e : Failure}
    (h : s.execute st = (.error e, s')) : s' = s := by
  unfold execute at h
  split at h
  · cases h
    rfl
  · cases h

/-- Every transaction begins with nothing held back. -/
theorem begin_ok {s s' : Store} {t : Transaction} (h : s.begin = (.ok t, s')) :
    t = {} ∧ s' = { s with log := { s.log with begun := s.log.begun + 1 } } := by
  unfold begin at h
  split at h
  · cases h
  · cases h
    exact ⟨rfl, rfl⟩

theorem begin_error {s s' : Store} {e : Failure} (h : s.begin = (.error e, s')) :
    e = .storeOffline ∧ s' = s := by
  unfold begin at h
  split at h
  · cases h
    exact ⟨rfl, rfl⟩
  · cases h

@[simp] theorem rowsFor_respond (s : Store) (text other : String) (rows : List Row) :
    (s.respond text rows).rowsFor other = if other = text then rows else s.rowsFor other := by
  by_cases same : other = text
  · simp [respond, rowsFor, same]
  · simp [respond, rowsFor, List.lookup_cons, same, beq_eq_false_iff_ne.mpr same]

end Store

namespace Transaction

/-- Executes a statement inside the transaction: it is held back until the commit. -/
def execute (t : Transaction) (s : Store) (st : Statement) :
    Except Failure (List Row) × Transaction × Store :=
  if s.offline then (.error .storeOffline, t, s)
  else if 0 < s.faults then (.error (.deadlock st.text), t, { s with faults := s.faults - 1 })
  else (.ok (s.rowsFor st.text), { t with pending := t.pending ++ [st] }, s)

def rollback (_ : Transaction) (s : Store) : Store :=
  { s with log := { s.log with rolledBack := s.log.rolledBack + 1 } }

/-- A statement that succeeds is held back and leaves the store as it was. -/
theorem execute_ok {t t' : Transaction} {s s' : Store} {st : Statement} {rows : List Row}
    (h : t.execute s st = (.ok rows, t', s')) : t' = { pending := t.pending ++ [st] } ∧ s' = s := by
  unfold execute at h
  split at h
  · cases h
  · split at h
    · cases h
    · cases h
      exact ⟨rfl, rfl⟩

/-- A statement that fails uses up a fault at most. -/
theorem execute_error {t t' : Transaction} {s s' : Store} {st : Statement} {e : Failure}
    (h : t.execute s st = (.error e, t', s')) : t' = t ∧ ∃ faults, s' = { s with faults } := by
  unfold execute at h
  split at h
  · cases h
    exact ⟨rfl, _, rfl⟩
  · split at h
    · cases h
      exact ⟨rfl, _, rfl⟩
    · cases h

/-- Journals the statements held back. A commit that is refused rolls the transaction back. -/
def commit (t : Transaction) (s : Store) : Except Failure Unit × Store :=
  if s.offline || s.rejectsCommits then (.error .commitRejected, t.rollback s)
  else
    (.ok (), { s with
      journal := s.journal ++ t.pending
      log := { s.log with committed := s.log.committed + 1 } })

theorem commit_ok {t : Transaction} {s s' : Store} (h : t.commit s = (.ok (), s')) :
    s' = { s with
      journal := s.journal ++ t.pending
      log := { s.log with committed := s.log.committed + 1 } } := by
  unfold commit at h
  split at h
  · cases h
  · cases h
    rfl

theorem commit_error {t : Transaction} {s s' : Store} {e : Failure} (h : t.commit s = (.error e, s')) :
    e = .commitRejected ∧ s' = t.rollback s := by
  unfold commit at h
  split at h
  · cases h
    exact ⟨rfl, rfl⟩
  · cases h

end Transaction

end GraphBatch
