import GraphBatch.Proofs.Server.Journal

/-!
# Failures of a server

Whether a server grants a request can be told from its history. `History.offline`, `History.rejecting` and
`History.injected` are what was switched last, and `History.executed` counts the statements that have met the
injected faults since; `History.failure` is the failure that they make a request meet. A store keeps its
switches and the faults left as the history tells (`Tells.step`), whichever transactions the statements were
in, and so it fails the requests that the history says, and no others (`Tells.reply_eq_error`).
-/

namespace GraphBatch

/-- The three ways in which a statement inside a transaction can go. -/
theorem Transaction.execute_cases (t : Transaction) (s : Store) (st : Statement) :
    s.offline = true ∧ t.execute s st = (.error .storeOffline, t, s) ∨
      s.offline = false ∧ 0 < s.faults ∧
        t.execute s st = (.error (.deadlock st.text), t, { s with faults := s.faults - 1 }) ∨
      s.offline = false ∧ s.faults = 0 ∧
        t.execute s st = (.ok (s.rowsFor st.text), { pending := t.pending ++ [st] }, s) := by
  unfold execute
  cases s.offline with
  | true => exact .inl ⟨rfl, rfl⟩
  | false =>
    rcases Nat.eq_zero_or_pos s.faults with none | some
    · exact .inr (.inr ⟨rfl, none, by simp [none]⟩)
    · exact .inr (.inl ⟨rfl, some, by simp [some]⟩)

/-! ## Switches

Only to turn a switch and to meet a fault changes what fails. -/

/-- The switches of a store, and the number of faults left. -/
def Store.switches (s : Store) : Bool × Bool × Nat :=
  (s.offline, s.rejectsCommits, s.faults)

theorem Store.switches_begin (s : Store) : s.begin.2.switches = s.switches := by
  unfold begin
  split <;> rfl

theorem Store.switches_execute (s : Store) (st : Statement) : (s.execute st).2.switches = s.switches := by
  unfold execute
  split <;> rfl

theorem Transaction.switches_commit (t : Transaction) (s : Store) : (t.commit s).2.switches = s.switches := by
  unfold commit
  split <;> rfl

/-! ## Failures told from the history -/

namespace Server

namespace History

/-- The store was last switched offline. -/
def offline : History → Bool
  | [] => false
  | (.switch (.offline on), _) :: _ => on
  | _ :: past => offline past

/-- The store was last switched to reject commits. -/
def rejecting : History → Bool
  | [] => false
  | (.switch (.rejectCommits on), _) :: _ => on
  | _ :: past => rejecting past

/-- The number of faults that were last injected. -/
def injected : History → Nat
  | [] => 0
  | (.switch (.faults count), _) :: _ => count
  | _ :: past => injected past

/-- The name stands for an open transaction. -/
def isOpen (name : String) (past : History) : Bool :=
  (held name past).isSome

/-- The number of statements that were executed online, in any transactions, since faults were last injected. -/
def executed : History → Nat
  | [] => 0
  | (.switch (.faults _), _) :: _ => 0
  | (.execute (some name) _, _) :: past =>
    if isOpen name past && !offline past then executed past + 1 else executed past
  | _ :: past => executed past

/-- What a request fails with after these exchanges. -/
def failure (past : History) : Request → Option Failure
  | .begin _ => if past.offline then some (.connection "store is offline") else none
  | .execute none _ => if past.offline then some (.connection "store is offline") else none
  | .execute (some name) st =>
    if !isOpen name past then none
    else if past.offline then some (.connection "store is offline")
    else if past.executed < past.injected then
      some (.transient ("deadlock detected while executing: " ++ st.text))
    else none
  | .commit name =>
    if isOpen name past && (past.offline || past.rejecting) then some (.connection "commit rejected by store")
    else none
  | .respond .. | .switch _ | .rollback _ | .drop _ => none

end History

/-- A failed request leaves everything as it was, but that a commit ends its transaction, which the log counts
as rolled back, and that a transient failure uses up one of the faults. -/
def LeftBy (server : Server) (request : Request) (e : Failure) (server' : Server) : Prop :=
  match request with
  | .commit name =>
    server'.store = { server.store with log.rolledBack := server.store.log.rolledBack + 1 } ∧
      ∀ other, server'.find? other = if other = name then none else server.find? other
  | _ =>
    (if e.isTransient then
      0 < server.store.faults ∧ server'.store = { server.store with faults := server.store.faults - 1 }
    else server'.store = server.store) ∧
      ∀ other, server'.find? other = server.find? other

/-- The server has the open transactions, the switches and the faults that the history tells of. -/
structure Tells (past : History) (server : Server) : Prop extends Accounts past server where
  switches : server.store.switches = (past.offline, past.rejecting, past.injected - past.executed)

namespace Tells

variable {past : History} {server server' : Server} {reply : Reply} {request : Request}

theorem new : Tells [] {} where
  toAccounts := .new
  switches := rfl

theorem offline (h : Tells past server) : server.store.offline = past.offline :=
  congrArg Prod.fst h.switches

theorem rejecting (h : Tells past server) : server.store.rejectsCommits = past.rejecting :=
  congrArg (·.2.1) h.switches

theorem faults (h : Tells past server) : server.store.faults = past.injected - past.executed :=
  congrArg (·.2.2) h.switches

theorem isOpen_eq (h : Tells past server) (name : String) :
    History.isOpen name past = (server.find? name).isSome := by
  rw [History.isOpen, ← h.held name, Option.isSome_map]

/-- Any switch is told of as it was turned last. -/
theorem switched (h : Tells past server) (sw : Store.Switch) :
    (server.store.set sw).switches =
      (History.offline ((.switch sw, reply) :: past), History.rejecting ((.switch sw, reply) :: past),
        History.injected ((.switch sw, reply) :: past) - History.executed ((.switch sw, reply) :: past)) := by
  cases sw with
  | offline on => exact congrArg (Prod.mk on) (congrArg Prod.snd h.switches)
  | rejectCommits on =>
    show (server.store.offline, on, server.store.faults) = _
    rw [h.offline, h.faults]
    rfl
  | faults count =>
    show (server.store.offline, server.store.rejectsCommits, count) = _
    rw [h.offline, h.rejecting]
    rfl

/-- A statement inside an open transaction is counted while the store is online, and then uses up a fault if
there is one left. -/
theorem met (h : Tells past server) {name : String} {t : Transaction} (found : server.find? name = some t)
    (st : Statement) : (t.execute server.store st).2.2.switches =
      (past.offline, past.rejecting,
        past.injected - History.executed ((.execute (some name) st, reply) :: past)) := by
  have offline := h.offline
  have faults := h.faults
  have counted : History.executed ((.execute (some name) st, reply) :: past) =
      if past.offline then past.executed else past.executed + 1 := by
    rw [History.executed, h.isOpen_eq, found]
    cases past.offline <;> rfl
  rw [counted]
  rcases t.execute_cases server.store st with ⟨switched, outcome⟩ | ⟨switched, left, outcome⟩ |
      ⟨switched, left, outcome⟩
  · rw [outcome, if_pos (offline ▸ switched)]
    exact h.switches
  · rw [outcome, if_neg (by rw [← offline, switched]; decide)]
    show (server.store.offline, server.store.rejectsCommits, server.store.faults - 1) = _
    rw [h.offline, h.rejecting, faults, Nat.sub_sub]
  · rw [outcome, if_neg (by rw [← offline, switched]; decide)]
    show (server.store.offline, server.store.rejectsCommits, server.store.faults) = _
    rw [h.offline, h.rejecting, left, ← Nat.sub_sub, ← faults, left]

/-- Every exchange keeps a server as its history tells. -/
theorem step (h : Tells past server) (answered : server.step request = (reply, server')) :
    Tells ((request, reply) :: past) server' := by
  refine ⟨h.toAccounts.step answered, ?_⟩
  cases request with
  | respond text rows =>
    cases answered
    exact h.switches
  | switch sw =>
    cases answered
    exact h.switched sw
  | begin name =>
    have kept := (server.store.switches_begin).trans h.switches
    simp only [Server.step] at answered
    split at answered <;> rename_i began <;> cases answered <;> rw [began] at kept <;> exact kept
  | execute on st =>
    cases on with
    | none =>
      cases answered
      exact (server.store.switches_execute st).trans h.switches
    | some name =>
      simp only [Server.step] at answered
      split at answered <;> rename_i found <;> cases answered
      · have uncounted : History.isOpen name past = false := by rw [h.isOpen_eq, found, Option.isSome_none]
        rw [History.executed, uncounted]
        exact h.switches
      · exact h.met found st
  | commit name =>
    simp only [Server.step] at answered
    split at answered <;> cases answered
    · exact h.switches
    · exact (Transaction.switches_commit _ _).trans h.switches
  | rollback name =>
    simp only [Server.step] at answered
    split at answered <;> cases answered <;> exact h.switches
  | drop name =>
    cases answered
    exact h.switches

/-- So do the exchanges of a run. -/
theorem run (h : Tells past server) (requests : List Request) :
    Tells ((requests.zip (server.run requests).1).reverse ++ past) (server.run requests).2 :=
  run_kept (fun kept answered => kept.step answered) h requests

/-- A server fails the requests that its history says, and no others. -/
theorem reply_eq_error (h : Tells past server) (request : Request) (e : Failure) :
    (server.step request).1 = .error e ↔ past.failure request = some e := by
  cases request with
  | begin name =>
    rw [History.failure, ← h.offline]
    simp only [Server.step, Store.begin]
    cases server.store.offline <;> simp [Failure.storeOffline]
  | execute on st =>
    cases on with
    | none =>
      rw [History.failure, ← h.offline]
      simp only [Server.step, Store.execute]
      cases server.store.offline <;> simp [Failure.storeOffline]
    | some name =>
      rw [History.failure, h.isOpen_eq, ← h.offline]
      simp only [Server.step]
      cases found : server.find? name with
      | none => simp
      | some t =>
        have faults := h.faults
        rcases t.execute_cases server.store st with ⟨switched, outcome⟩ | ⟨switched, left, outcome⟩ |
            ⟨switched, left, outcome⟩
        · simp [outcome, switched, Failure.storeOffline]
        · have some : past.executed < past.injected := by omega
          simp [outcome, switched, some, Failure.deadlock]
        · have none : ¬ past.executed < past.injected := by omega
          simp [outcome, switched, none]
  | commit name =>
    rw [History.failure, h.isOpen_eq, ← h.offline, ← h.rejecting]
    simp only [Server.step, Transaction.commit]
    cases found : server.find? name with
    | none => simp
    | some t => cases server.store.offline || server.store.rejectsCommits <;> simp [Except.map, Failure.commitRejected]
  | respond | switch | drop => simp [Server.step, History.failure]
  | rollback name =>
    simp only [Server.step, History.failure]
    cases server.find? name <;> simp

end Tells

/-- What is updated to what it was is as before. -/
theorem find?_update_self {server : Server} {name : String} {t : Transaction}
    (found : server.find? name = some t) (other : String) :
    (update server.opened name t).lookup other = server.find? other := by
  rw [lookup_update]
  split
  · rename_i same
    rw [same, ← find?, found]
    rfl
  · rfl

/-- What a failed request leaves. -/
theorem leftBy_of_error {server server' : Server} {request : Request} {e : Failure}
    (failed : server.step request = (.error e, server')) : server.LeftBy request e server' := by
  cases request with
  | begin name =>
    simp only [step] at failed
    split at failed <;> rename_i began <;> cases failed
    obtain ⟨rfl, rfl⟩ := Store.begin_error began
    exact ⟨rfl, fun other => rfl⟩
  | execute on st =>
    cases on with
    | none =>
      simp only [step] at failed
      cases offline : server.store.offline <;> simp [Store.execute, offline] at failed
      obtain ⟨rfl, rfl⟩ := failed
      exact ⟨rfl, fun other => rfl⟩
    | some name =>
      simp only [step] at failed
      split at failed <;> rename_i found
      · cases failed
      · rename_i t
        rcases t.execute_cases server.store st with ⟨-, outcome⟩ | ⟨-, left, outcome⟩ | ⟨-, -, outcome⟩ <;>
          rw [outcome] at failed <;> cases failed
        · exact ⟨rfl, find?_update_self found⟩
        · exact ⟨⟨left, rfl⟩, find?_update_self found⟩
  | commit name =>
    simp only [step] at failed
    split at failed <;> rename_i found
    · cases failed
    · rename_i t
      rcases committed : t.commit server.store with ⟨e' | ⟨⟩, store⟩
      · obtain ⟨rfl, rfl⟩ := Transaction.commit_error committed
        rw [committed] at failed
        cases failed
        exact ⟨rfl, server.lookup_close name⟩
      · rw [committed] at failed
        cases failed
  | respond | switch | drop => cases failed
  | rollback name =>
    simp only [step] at failed
    split at failed <;> cases failed

/-- **Failures.** After any requests to a new server, interleaving any transactions, the next request fails
exactly as their history says: to begin and to execute past the transactions while the store is offline, to
commit while it is offline or rejects commits, to execute inside a transaction while it is offline or else
while fewer statements have been executed than faults were injected; and to roll back never. A failed request
leaves everything as it was, except that a transient failure uses up one fault and a commit its transaction. -/
theorem failures_of_history (requests : List Request) (request : Request) :
    let past := history requests
    let server := (({} : Server).run requests).2
    (∀ e, (server.step request).1 = .error e ↔ past.failure request = some e) ∧
      server.store.faults = past.injected - past.executed ∧
      ∀ e, (server.step request).1 = .error e → server.LeftBy request e (server.step request).2 := by
  intro past server
  have tells : Tells past server := by
    simpa [past, server, history] using Tells.new.run requests
  refine ⟨tells.reply_eq_error request, tells.faults, ?_⟩
  intro e failed
  exact leftBy_of_error (Prod.ext failed rfl)

/-- Of two faults one is met in another transaction, and a statement that finds the store offline meets none:
so the next one meets the second fault, and the one after that would succeed. -/
theorem failures_of_history_interleaved :
    let st : Statement := { text := "b1" }
    let requests : List Request := [.switch (.faults 2), .begin "a", .begin "b",
      .execute (some "a") { text := "a1" }, .switch (.offline true), .execute (some "b") st,
      .switch (.offline false)]
    let request : Request := .execute (some "b") st
    let server := (({} : Server).run requests).2
    (history requests).executed = 1 ∧ server.store.faults = 1 ∧
      (server.step request).1 = .error (.transient "deadlock detected while executing: b1") ∧
      server.LeftBy request (.transient "deadlock detected while executing: b1") (server.step request).2 ∧
      (history (requests ++ [request])).failure request = none := by
  intro st requests request server
  obtain ⟨replies, -, left⟩ := failures_of_history requests request
  have failed : (server.step request).1 = .error (.transient "deadlock detected while executing: b1") :=
    (replies _).mpr rfl
  exact ⟨by decide +kernel, by decide +kernel, failed, left _ failed, rfl⟩

end Server

end GraphBatch
