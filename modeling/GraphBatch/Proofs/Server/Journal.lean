import GraphBatch.Store.Server

/-!
# The journal of a server

What a server has journaled can be told from outside, by the requests that it was sent and its replies.
`History.journal` tells it from such a history: a statement outside any transaction counts when it
succeeds, the statements of a transaction count together when its commit succeeds, and nothing else
counts. `Accounts` relates a server to its history, and `accounts_step` says that every request keeps
the relation, however the transactions interleave and whichever switches are turned meanwhile.
-/

namespace GraphBatch

namespace Server

/-- A request with the reply to it. -/
abbrev Exchange := Request × Reply

/-- The exchanges with a server, the latest first. -/
abbrev History := List Exchange

namespace History

/-- The statements that have succeeded in the transaction called `name` since it began, in order; `none`
if no transaction of that name is open. -/
def held (name : String) : History → Option (List Statement)
  | [] => none
  | (.begin other, .ok _) :: past => if other = name then some [] else held name past
  | (.execute (some other) st, .ok _) :: past =>
    if other = name then (held name past).map (· ++ [st]) else held name past
  | (.commit other, _) :: past => if other = name then none else held name past
  | (.rollback other, _) :: past => if other = name then none else held name past
  | (.drop other, _) :: past => if other = name then none else held name past
  | _ :: past => held name past

/-- The statements that an exchange makes lasting, by the history before it. -/
def lasting (past : History) : Exchange → List Statement
  | (.execute none st, .ok _) => [st]
  | (.commit name, .ok _) => (held name past).getD []
  | _ => []

/-- The statements that the exchanges of a history made lasting, in order of the exchanges. -/
def journal : History → List Statement
  | [] => []
  | exchange :: past => journal past ++ lasting past exchange

/-- A statement is in the journal exactly if some exchange made it lasting. -/
theorem mem_journal {st : Statement} {history : History} : st ∈ journal history ↔
    ∃ exchange past, exchange :: past <:+ history ∧ st ∈ lasting past exchange := by
  induction history with
  | nil => simp [journal]
  | cons latest past ih =>
    rw [journal, List.mem_append, ih]
    constructor
    · rintro (⟨exchange, earlier, suffix, mem⟩ | mem)
      · exact ⟨exchange, earlier, suffix.trans (List.suffix_cons latest past), mem⟩
      · exact ⟨latest, past, List.suffix_rfl, mem⟩
    · rintro ⟨exchange, earlier, suffix, mem⟩
      rcases List.suffix_cons_iff.mp suffix with same | suffix
      · cases same
        exact .inr mem
      · exact .inl ⟨exchange, earlier, suffix, mem⟩

/-- What an earlier history has in its journal stays at the front. -/
theorem journal_prefix (new past : History) : journal past <+: journal (new ++ past) := by
  induction new with
  | nil => exact List.prefix_rfl
  | cons exchange new ih => exact ih.trans (List.prefix_append _ _)

end History

/-- The history of a server that is sent some requests when it is new. -/
def history (requests : List Request) : History :=
  (requests.zip (({} : Server).run requests).1).reverse

/-- What every exchange keeps between a server and its history is kept by a run. -/
theorem run_kept {Kept : History → Server → Prop}
    (each : ∀ {past : History} {server server' : Server} {request : Request} {reply : Reply},
      Kept past server → server.step request = (reply, server') → Kept ((request, reply) :: past) server')
    {past : History} {server : Server} (start : Kept past server) (requests : List Request) :
    Kept ((requests.zip (server.run requests).1).reverse ++ past) (server.run requests).2 := by
  induction requests generalizing past server with
  | nil => exact start
  | cons request rest ih =>
    have first : Kept ((request, (server.step request).1) :: past) (server.step request).2 := each start rfl
    simpa [Server.run] using ih first

/-- The server is as the history tells. -/
structure Accounts (past : History) (server : Server) : Prop where
  journal : server.store.journal = past.journal
  /-- An open transaction holds back the statements that have succeeded in it. -/
  held : ∀ name, (server.find? name).map (·.pending) = past.held name

namespace Accounts

variable {past : History} {server server' : Server} {reply : Reply}

theorem new : Accounts [] {} where
  journal := rfl
  held _ := rfl

/-- Of an exchange remains to be shown what it adds to the journal and what it makes of the names. -/
theorem cons (h : Accounts past server) {exchange : Exchange}
    (journal : server'.store.journal = server.store.journal ++ past.lasting exchange)
    (held : ∀ name, (server'.find? name).map (·.pending) = History.held name (exchange :: past)) :
    Accounts (exchange :: past) server' where
  journal := by rw [journal, h.journal, History.journal]
  held := held

/-- Where a name stands for no transaction, nothing is held back under it. -/
theorem held_eq_none (h : Accounts past server) {name : String} (unopened : server.find? name = none) :
    past.held name = none := by
  rw [← h.held name, unopened]
  rfl

theorem held_eq_some (h : Accounts past server) {name : String} {t : Transaction}
    (opened : server.find? name = some t) : past.held name = some t.pending := by
  rw [← h.held name, opened]
  rfl

/-- To close a name that stands for nothing changes nothing. -/
theorem held_unopened (h : Accounts past server) {name : String} (unopened : server.find? name = none)
    (other : String) : (server.find? other).map (·.pending) =
      if name = other then none else past.held other := by
  rw [h.held other]
  split
  · rename_i same
    exact same ▸ h.held_eq_none unopened
  · rfl

theorem held_close (h : Accounts past server) (store : Store) (name other : String) :
    (find? { store, opened := server.close name } other).map (·.pending) =
      if name = other then none else past.held other := by
  rw [find?, lookup_close]
  by_cases same : other = name
  · simp [same]
  · simp [same, Ne.symm same, h.held other]

theorem held_update (h : Accounts past server) {name : String} {t : Transaction}
    (opened : server.find? name = some t) (t' : Transaction) (store : Store) (other : String) :
    (find? { store, opened := update server.opened name t' } other).map (·.pending) =
      if name = other then some t'.pending else past.held other := by
  rw [find?, lookup_update, ← find?, ← find?, opened]
  by_cases same : other = name
  · simp [same]
  · simp [same, Ne.symm same, h.held other]

theorem begin (h : Accounts past server) {name : String}
    (answered : server.step (.begin name) = (reply, server')) :
    Accounts ((.begin name, reply) :: past) server' := by
  simp only [step] at answered
  split at answered <;> rename_i began <;> cases answered
  · obtain ⟨rfl, rfl⟩ := Store.begin_ok began
    refine h.cons (List.append_nil _).symm fun other => ?_
    rw [find?, List.lookup_cons, History.held]
    by_cases same : other = name
    · simp [same]
    · rw [beq_eq_false_iff_ne.mpr same, if_neg (Ne.symm same)]
      have others := h.held_close server.store name other
      rwa [if_neg (Ne.symm same), find?] at others
  · obtain ⟨-, rfl⟩ := Store.begin_error began
    exact h.cons (List.append_nil _).symm h.held

/-- A statement outside any transaction. -/
theorem outside (h : Accounts past server) {st : Statement}
    (answered : server.step (.execute none st) = (reply, server')) :
    Accounts ((.execute none st, reply) :: past) server' := by
  simp only [step] at answered
  cases answered
  rcases executed : server.store.execute st with ⟨e | rows, store⟩
  · obtain rfl := Store.execute_error executed
    exact h.cons (List.append_nil _).symm h.held
  · obtain rfl := Store.execute_ok executed
    exact h.cons rfl h.held

/-- A statement inside a transaction is held back if it succeeds. -/
theorem inside (h : Accounts past server) {name : String} {st : Statement}
    (answered : server.step (.execute (some name) st) = (reply, server')) :
    Accounts ((.execute (some name) st, reply) :: past) server' := by
  simp only [step] at answered
  split at answered <;> rename_i found
  · cases answered
    refine h.cons (List.append_nil _).symm fun other => ?_
    rw [h.held_unopened found, History.held]
    by_cases same : name = other
    · subst same
      simp [h.held_eq_none found]
    · simp [same]
  · rename_i t
    cases answered
    rcases executed : t.execute server.store st with ⟨e | rows, t', store⟩
    · obtain ⟨rfl, faults, rfl⟩ := Transaction.execute_error executed
      refine h.cons (List.append_nil _).symm fun other => ?_
      rw [h.held_update found]
      by_cases same : name = other
      · subst same
        simp [History.held, h.held_eq_some found]
      · simp [History.held, same]
    · obtain ⟨rfl, rfl⟩ := Transaction.execute_ok executed
      refine h.cons (List.append_nil _).symm fun other => ?_
      rw [h.held_update found, History.held]
      by_cases same : name = other
      · subst same
        simp [h.held_eq_some found]
      · simp [same]

/-- A commit makes the whole transaction lasting if it succeeds. -/
theorem commit (h : Accounts past server) {name : String}
    (answered : server.step (.commit name) = (reply, server')) :
    Accounts ((.commit name, reply) :: past) server' := by
  simp only [step] at answered
  split at answered <;> rename_i found
  · cases answered
    refine h.cons ?_ (h.held_unopened found)
    rw [History.lasting, h.held_eq_none found]
    exact (List.append_nil _).symm
  · rename_i t
    cases answered
    refine h.cons ?_ (h.held_close _ name)
    rcases committed : t.commit server.store with ⟨e | ⟨⟩, store⟩
    · obtain ⟨-, rfl⟩ := Transaction.commit_error committed
      exact (List.append_nil _).symm
    · obtain rfl := Transaction.commit_ok committed
      simp [Except.map, History.lasting, h.held_eq_some found]

theorem rollback (h : Accounts past server) {name : String}
    (answered : server.step (.rollback name) = (reply, server')) :
    Accounts ((.rollback name, reply) :: past) server' := by
  simp only [step] at answered
  split at answered <;> rename_i found <;> cases answered
  · exact h.cons (List.append_nil _).symm (h.held_unopened found)
  · exact h.cons (List.append_nil _).symm (h.held_close _ name)

theorem drop (h : Accounts past server) {name : String}
    (answered : server.step (.drop name) = (reply, server')) :
    Accounts ((.drop name, reply) :: past) server' := by
  cases answered
  exact h.cons (List.append_nil _).symm (h.held_close server.store name)

/-- Every exchange keeps a server as its history tells. -/
theorem step (h : Accounts past server) {request : Request}
    (answered : server.step request = (reply, server')) : Accounts ((request, reply) :: past) server' := by
  cases request with
  | respond text rows =>
    cases answered
    exact h.cons (List.append_nil _).symm h.held
  | switch switch =>
    cases answered
    exact h.cons (by simp [History.lasting]) h.held
  | begin name => exact h.begin answered
  | execute on st =>
    cases on with
    | none => exact h.outside answered
    | some name => exact h.inside answered
  | commit name => exact h.commit answered
  | rollback name => exact h.rollback answered
  | drop name => exact h.drop answered

/-- So do the exchanges of a run. -/
theorem run (h : Accounts past server) (requests : List Request) :
    Accounts ((requests.zip (server.run requests).1).reverse ++ past) (server.run requests).2 :=
  run_kept (fun kept answered => kept.step answered) h requests

end Accounts

theorem run_append (server : Server) (requests later : List Request) :
    (server.run (requests ++ later)).2 = ((server.run requests).2.run later).2 := by
  induction requests generalizing server with
  | nil => rfl
  | cons request rest ih => exact ih _

/-- **The journal of a server.** After any requests to a new server, interleaving any transactions, the
journal is told by their history: in order of the exchanges, each statement outside a transaction that
succeeded, and at each commit that succeeded all that had succeeded in the transaction, in one block.
So a statement is in it only if one of these exchanges put it there, and it only ever grows at its end. -/
theorem journal_of_history (requests later : List Request) :
    let journal := (({} : Server).run requests).2.store.journal
    journal = (history requests).journal ∧
      (∀ st, st ∈ journal ↔
        ∃ exchange past, exchange :: past <:+ history requests ∧ st ∈ History.lasting past exchange) ∧
      journal <+: (({} : Server).run (requests ++ later)).2.store.journal := by
  intro journal
  have accounts : Accounts (history requests) (({} : Server).run requests).2 := by
    simpa [history] using Accounts.new.run requests
  have told : journal = (history requests).journal := accounts.journal
  refine ⟨told, fun st => ?_, ?_⟩
  · rw [told]
    exact History.mem_journal
  · rw [told, run_append, (accounts.run later).journal]
    exact History.journal_prefix _ _

-- Two transactions at once: a statement goes past them, the commit of the first is rejected, and the name
-- of the second is given to a third, which stays open.
example :
    let requests := [.begin "a", .execute (some "a") { text := "a1" }, .begin "b",
      .execute (some "b") { text := "b1" }, .execute none { text := "direct" }, .switch (.faults 1),
      .execute (some "b") { text := "b2" }, .execute (some "b") { text := "b3" },
      .switch (.rejectCommits true), .commit "a", .switch (.rejectCommits false), .commit "b",
      .begin "b", .execute (some "b") { text := "b4" }]
    (({} : Server).run requests).2.store.journal.map (·.text) = ["direct", "b1", "b3"] := by
  decide

end Server

end GraphBatch
