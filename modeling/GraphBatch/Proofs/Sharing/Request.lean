import GraphBatch.Proofs.Sharing.Operation
import GraphBatch.Store.Server
import Mathlib.Data.List.Nodup

/-!
# Requests to a server as operations

A request to a server asks its store for one operation at most. The log counts these operations
(`Server.log_step`), and as long as every open transaction has a name of its own, their number changes by
the operations and by the transactions that are let go unfinished (`Server.Distinct.length_step`).
-/

namespace GraphBatch

namespace Server

/-- The operation that a request asks of the store. A request that names no open transaction asks for
none. -/
def operation? (server : Server) : Request → Option Operation
  | .respond _ _ => none
  | .switch sw => some (.set sw)
  | .begin _ => some (.begin server.store.begin.1)
  | .execute none st => some (.outside st (server.store.execute st).1)
  | .execute (some name) st => (server.find? name).map fun t =>
    .inside t st (t.execute server.store st).1 (t.execute server.store st).2.1
  | .commit name => (server.find? name).map fun t => .commit t (t.commit server.store).1
  | .rollback name => (server.find? name).map fun t => .rollback t (.ok ())
  | .drop _ => none

/-- Whether a request lets a transaction go unfinished, by dropping it or by giving its name to another
one. -/
def drops (server : Server) : Request → Bool
  | .begin name => server.store.begin.1.isOk && (server.find? name).isSome
  | .drop name => (server.find? name).isSome
  | _ => false

variable {server : Server}

/-- The log counts what a request asks of the store. -/
theorem log_step (server : Server) (request : Request) :
    (server.step request).2.store.log = server.store.log.enter (server.operation? request).toList := by
  cases request with
  | respond text rows => rfl
  | switch sw => exact Store.Answers₁.log (x := .set sw) rfl
  | begin name =>
    rcases began : server.store.begin with ⟨e | t, store⟩
    · simp only [step, operation?, began]
      exact Store.Answers₁.log (x := .begin (.error e)) began
    · simp only [step, operation?, began]
      exact Store.Answers₁.log (x := .begin (.ok t)) began
  | execute on st =>
    cases on with
    | none => exact Store.Answers₁.log (x := .outside st (server.store.execute st).1) rfl
    | some name =>
      simp only [step, operation?]
      cases server.find? name with
      | none => rfl
      | some t =>
        exact Store.Answers₁.log
          (x := .inside t st (t.execute server.store st).1 (t.execute server.store st).2.1) rfl
  | commit name =>
    simp only [step, operation?]
    cases server.find? name with
    | none => rfl
    | some t => exact Store.Answers₁.log (x := .commit t (t.commit server.store).1) rfl
  | rollback name =>
    simp only [step, operation?]
    cases server.find? name with
    | none => rfl
    | some t => rfl
  | drop name => rfl

/-! ## Open transactions -/

/-- No name is given to two open transactions. -/
def Distinct (server : Server) : Prop := (server.opened.map (·.1)).Nodup

theorem names_update (opened : List (String × Transaction)) (name : String) (t : Transaction) :
    (update opened name t).map (·.1) = opened.map (·.1) := by
  rw [update, List.map_map]
  refine List.map_congr_left fun entry _ => ?_
  by_cases same : entry.1 = name <;> simp [same]

theorem not_mem_close (server : Server) (name : String) : name ∉ (server.close name).map (·.1) := by
  simp [close]

namespace Distinct

theorem close (h : server.Distinct) (name : String) : ((server.close name).map (·.1)).Nodup :=
  h.sublist (List.filter_sublist.map _)

/-- Requests give names of their own to the transactions that they open. -/
theorem step (h : server.Distinct) (request : Request) : (server.step request).2.Distinct := by
  cases request with
  | respond | switch => exact h
  | begin name =>
    simp only [Server.step]
    split
    · exact List.nodup_cons.mpr ⟨server.not_mem_close name, h.close name⟩
    · exact h
  | execute on st =>
    cases on with
    | none => exact h
    | some name =>
      simp only [Server.step]
      split
      · exact h
      · unfold Distinct
        rw [names_update]
        exact h
  | commit name | rollback name =>
    simp only [Server.step]
    split
    · exact h
    · exact h.close name
  | drop name => exact h.close name

/-- Closing a name takes away the transaction that it stands for, and no other. -/
theorem length_close (h : server.Distinct) (name : String) :
    (server.close name).length + (server.find? name).isSome.toNat = server.opened.length := by
  have apart : server.opened.length = server.opened.countP (·.1 == name) + (server.close name).length := by
    rw [List.countP_eq_length_filter]
    exact List.length_eq_length_filter_add _
  have called : server.opened.countP (·.1 == name) = (server.opened.map (·.1)).count name := by
    rw [List.count, List.countP_map]
    rfl
  have found : (server.find? name).isSome = true ↔ name ∈ server.opened.map (·.1) := by
    rw [find?, List.lookup_isSome_iff, List.mem_map]
    simp only [beq_iff_eq, eq_comm (a := name)]
  rw [apart, called, h.count, Nat.add_comm]
  by_cases opened : name ∈ server.opened.map (·.1)
  · rw [if_pos opened, found.mpr opened]
    rfl
  · rw [if_neg opened, Bool.eq_false_iff.mpr fun some => opened (found.mp some)]
    rfl

/-- With a request the number of open transactions changes by those that begin, end or are let go. -/
theorem length_step (h : server.Distinct) (request : Request) :
    (server.step request).2.opened.length +
        ((server.operation? request).toList.countP Operation.closes + (server.drops request).toNat) =
      server.opened.length + (server.operation? request).toList.countP Operation.opens := by
  cases request with
  | respond | switch => rfl
  | begin name =>
    have closed := h.length_close name
    rcases began : server.store.begin with ⟨e | t, store⟩
    · simp only [Server.step, operation?, drops, began]
      rfl
    · simp only [Server.step, operation?, drops, began]
      show (server.close name).length + 1 + (0 + (server.find? name).isSome.toNat) =
        server.opened.length + 1
      omega
  | execute on st =>
    cases on with
    | none => rfl
    | some name =>
      simp only [Server.step, operation?]
      cases server.find? name with
      | none => rfl
      | some t => exact List.length_map _
  | commit name =>
    have closed := h.length_close name
    simp only [Server.step, operation?]
    cases found : server.find? name with
    | none => rfl
    | some t =>
      rw [found] at closed
      simpa [drops] using closed
  | rollback name =>
    have closed := h.length_close name
    simp only [Server.step, operation?]
    cases found : server.find? name with
    | none => rfl
    | some t =>
      rw [found] at closed
      exact closed
  | drop name =>
    show (server.close name).length + (0 + (server.find? name).isSome.toNat) = server.opened.length + 0
    rw [Nat.zero_add]
    exact h.length_close name

end Distinct

end Server

end GraphBatch
