import GraphBatch.Client

/-!
# Operations on the journaling store

Whoever works with a store, by hand or through a task, does so by operations that the store answers one
after the other. `Store.Answers` relates a store with the operations that lead from it to another one, and
`Answers.log` says that the log counts them: it goes up with each transaction that begins, with each commit
that succeeds, and with each rollback and each commit that fails.
-/

namespace GraphBatch

/-- An operation on a store, with the reply to it. -/
inductive Operation where
  | begin (reply : Except Failure Transaction)
  /-- A statement inside a transaction, with the transaction as it is afterwards. -/
  | inside (t : Transaction) (st : Statement) (reply : Except Failure (List Row)) (t' : Transaction)
  | outside (st : Statement) (reply : Except Failure (List Row))
  | commit (t : Transaction) (reply : Except Failure Unit)
  | rollback (t : Transaction) (reply : Except Failure Unit)
  | set (sw : Store.Switch)

namespace Operation

/-- A transaction has begun. -/
def opens : Operation → Bool
  | begin (.ok _) => true
  | _ => false

def commits : Operation → Bool
  | commit _ (.ok _) => true
  | _ => false

/-- A commit has failed. -/
def refuses : Operation → Bool
  | commit _ (.error _) => true
  | _ => false

def undoes : Operation → Bool
  | rollback _ _ => true
  | _ => false

/-- A transaction is finished, one way or another. -/
def closes (x : Operation) : Bool :=
  x.commits || x.refuses || x.undoes

@[simp] theorem opens_commit (t : Transaction) (reply : Except Failure Unit) :
    (commit t reply).opens = false := rfl

@[simp] theorem closes_commit (t : Transaction) (reply : Except Failure Unit) :
    (commit t reply).closes = true := by
  cases reply <;> rfl

theorem countP_closes (xs : List Operation) :
    xs.countP closes = xs.countP commits + (xs.countP undoes + xs.countP refuses) := by
  induction xs with
  | nil => rfl
  | cons x xs ih =>
    have one : [x].countP closes = [x].countP commits + ([x].countP undoes + [x].countP refuses) := by
      rcases x with ⟨e | t⟩ | ⟨t, st, reply, t'⟩ | ⟨st, reply⟩ | ⟨t, e | ⟨⟩⟩ | ⟨t, reply⟩ | sw <;> rfl
    rw [← List.singleton_append, List.countP_append, List.countP_append, List.countP_append,
      List.countP_append, one, ih]
    omega

end Operation

/-- The log with some operations entered. -/
def Log.enter (log : Log) (xs : List Operation) : Log where
  begun := log.begun + xs.countP Operation.opens
  committed := log.committed + xs.countP Operation.commits
  rolledBack := log.rolledBack + (xs.countP Operation.undoes + xs.countP Operation.refuses)

theorem Log.enter_append (log : Log) (xs ys : List Operation) :
    log.enter (xs ++ ys) = (log.enter xs).enter ys := by
  refine Log.ext ?_ ?_ ?_
  · simp [enter, Nat.add_assoc]
  · simp [enter, Nat.add_assoc]
  · simp only [enter, List.countP_append]
    omega

namespace Store

/-- The store answers the operation as the operation says, and is then as `s'`. -/
def Answers₁ (s : Store) : Operation → Store → Prop
  | .begin reply, s' => Client.begin s = (reply, s')
  | .inside t st reply t', s' => Client.inside t s st = (reply, t', s')
  | .outside st reply, s' => Client.outside s st = (reply, s')
  | .commit t reply, s' => Client.commit t s = (reply, s')
  | .rollback t reply, s' => Client.rollback t s = (reply, s')
  | .set sw, s' => Client.set s sw = s'

theorem Answers₁.log {s s' : Store} {x : Operation} (h : s.Answers₁ x s') : s'.log = s.log.enter [x] := by
  cases x with
  | begin reply =>
    cases reply with
    | ok t =>
      obtain ⟨-, rfl⟩ := begin_ok h
      rfl
    | error e =>
      obtain ⟨-, rfl⟩ := begin_error h
      rfl
  | inside t st reply t' =>
    cases reply with
    | ok rows =>
      obtain ⟨-, rfl⟩ := Transaction.execute_ok h
      rfl
    | error e =>
      obtain ⟨-, faults, rfl⟩ := Transaction.execute_error h
      rfl
  | outside st reply =>
    cases reply with
    | ok rows =>
      obtain rfl := execute_ok h
      rfl
    | error e =>
      obtain rfl := execute_error h
      rfl
  | commit t reply =>
    cases reply with
    | ok done =>
      obtain rfl := Transaction.commit_ok h
      rfl
    | error e =>
      obtain ⟨-, rfl⟩ := Transaction.commit_error h
      rfl
  | rollback t reply =>
    cases h
    rfl
  | set sw =>
    cases h
    exact log_set s sw

/-- Operations that lead from one store to another. -/
inductive Answers : Store → List Operation → Store → Prop
  | nil (s : Store) : Answers s [] s
  | cons {s s₁ s₂ : Store} {x : Operation} {xs : List Operation} :
      s.Answers₁ x s₁ → Answers s₁ xs s₂ → Answers s (x :: xs) s₂

namespace Answers

variable {s s' s'' : Store} {xs ys : List Operation}

theorem one {x : Operation} (h : s.Answers₁ x s') : Answers s [x] s' := .cons h (.nil s')

theorem append (h : Answers s xs s') (h' : Answers s' ys s'') : Answers s (xs ++ ys) s'' := by
  induction h with
  | nil s => exact h'
  | cons first _ ih => exact .cons first (ih h')

/-- The log counts the operations. -/
theorem log (h : Answers s xs s') : s'.log = s.log.enter xs := by
  induction h with
  | nil s => rfl
  | cons first _ ih => rw [ih, first.log, ← Log.enter_append, List.singleton_append]

end Answers

end Store

end GraphBatch
