import GraphBatch.Store

/-!
# Clients

A client is a store that can open transactions. The runner and the executor ask nothing more of a
store, so they work with every client, however its operations fail; the journaling store is one.
-/

namespace GraphBatch

/-- Stores of type `ω` whose transactions are of type `θ`. An operation gives its reply with the
store that it leaves. -/
class Client (ω : Type) (θ : outParam Type) where
  begin : ω → Except Failure θ × ω
  /-- Executes a statement inside a transaction. -/
  inside : θ → ω → Statement → Except Failure (List Row) × θ × ω
  /-- Executes a statement outside any transaction. -/
  outside : ω → Statement → Except Failure (List Row) × ω
  commit : θ → ω → Except Failure Unit × ω
  rollback : θ → ω → Except Failure Unit × ω
  set : ω → Store.Switch → ω

namespace Store

instance client : Client Store Transaction where
  begin := begin
  inside := Transaction.execute
  outside := execute
  commit := Transaction.commit
  rollback t s := (.ok (), t.rollback s)
  set := set

@[simp] theorem client_begin (s : Store) : Client.begin s = s.begin := rfl

@[simp] theorem client_inside (t : Transaction) (s : Store) (st : Statement) :
    Client.inside t s st = t.execute s st := rfl

@[simp] theorem client_outside (s : Store) (st : Statement) :
    Client.outside s st = s.execute st := rfl

@[simp] theorem client_commit (t : Transaction) (s : Store) :
    Client.commit t s = t.commit s := rfl

@[simp] theorem client_rollback (t : Transaction) (s : Store) :
    Client.rollback t s = (.ok (), t.rollback s) := rfl

@[simp] theorem client_set (s : Store) (switch : Switch) : Client.set s switch = s.set switch := rfl

end Store

end GraphBatch
