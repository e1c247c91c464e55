import GraphBatch.Proofs.Query.Parameters
import GraphBatch.Proofs.Server.Failures

/-!
# Ways of running a query

A query can be run in four ways, sent to many targets and made through a wrapper. `Query.Ways.Answer` says that
four ways come to the same: they leave the same behind, and their replies tell of the same rows or of the same
failure. A client can be asked directly or through a wrapper, in each of these ways (`Query.fronts`).
`Query.Fares` says what that is on the store itself, and `Query.FaresInside` what an open transaction makes of
it. The rows are those that were registered last for the text of the query (`Server.rowsFor_run`), whatever else
the store was asked to do.
-/

namespace GraphBatch

/-! ## The rows of a text -/

/-- Rows are looked up among the registrations only. -/
theorem Store.rowsFor_congr {s s' : Store} (same : s'.responses = s.responses) (text : String) :
    s'.rowsFor text = s.rowsFor text := by
  rw [rowsFor, rowsFor, same]

theorem Store.responses_begin (s : Store) : s.begin.2.responses = s.responses := by
  unfold begin
  split <;> rfl

theorem Store.responses_execute (s : Store) (st : Statement) : (s.execute st).2.responses = s.responses := by
  unfold execute
  split <;> rfl

theorem Transaction.responses_execute (t : Transaction) (s : Store) (st : Statement) :
    (t.execute s st).2.2.responses = s.responses := by
  rcases t.execute_cases s st with ⟨-, outcome⟩ | ⟨-, -, outcome⟩ | ⟨-, -, outcome⟩ <;> rw [outcome]

theorem Transaction.responses_commit (t : Transaction) (s : Store) :
    (t.commit s).2.responses = s.responses := by
  unfold commit
  split <;> rfl

namespace Server

/-- The rows that requests register for exactly this text, in order. -/
def registrations (text : String) (requests : List Request) : List (List Row) :=
  requests.filterMap fun
    | .respond other rows => if other = text then some rows else none
    | _ => none

/-- No request but a registration changes what is registered. -/
theorem responses_step (server : Server) {request : Request} (other : ∀ text rows, request ≠ .respond text rows) :
    (server.step request).2.store.responses = server.store.responses := by
  cases request with
  | respond text rows => exact absurd rfl (other text rows)
  | switch sw => cases sw <;> rfl
  | begin name =>
    have kept := server.store.responses_begin
    simp only [step]
    split <;> rename_i began <;> rw [began] at kept <;> exact kept
  | execute on st =>
    cases on with
    | none => exact server.store.responses_execute st
    | some name =>
      simp only [step]
      split
      · rfl
      · exact Transaction.responses_execute _ _ st
  | commit name =>
    simp only [step]
    split
    · rfl
    · exact Transaction.responses_commit _ _
  | rollback name =>
    simp only [step]
    split <;> rfl
  | drop name => rfl

theorem rowsFor_step (server : Server) (request : Request) (text : String) :
    (server.step request).2.store.rowsFor text =
      (registrations text [request]).getLast?.getD (server.store.rowsFor text) := by
  cases request with
  | respond other rows =>
    show (server.store.respond other rows).rowsFor text = _
    rw [Store.rowsFor_respond]
    by_cases same : other = text
    · simp [registrations, same]
    · simp [registrations, same, Ne.symm same]
  | switch | begin | execute | commit | rollback | drop =>
    exact Store.rowsFor_congr (server.responses_step fun _ _ same => by cases same) text

/-- The rows of a text are those that were registered for it last. -/
theorem rowsFor_run (server : Server) (requests : List Request) (text : String) :
    (server.run requests).2.store.rowsFor text =
      (registrations text requests).getLast?.getD (server.store.rowsFor text) := by
  induction requests generalizing server with
  | nil => rfl
  | cons request rest ih =>
    have split : registrations text (request :: rest) =
        registrations text [request] ++ registrations text rest := List.filterMap_append (l := [request])
    have later : (server.run (request :: rest)).2 = ((server.step request).2.run rest).2 := rfl
    rw [later, ih, rowsFor_step, split, List.getLast?_append]
    cases (registrations text rest).getLast? <;> rfl

end Server

namespace Query

/-! ## Four ways -/

/-- The four ways of running a query. -/
structure Ways (m : Type → Type) where
  run : m (Except Failure Unit)
  execute : m (Except Failure (List Row))
  fetchAll : m (Except Failure (List Row))
  fetchOne : m (Except Failure (Option Row))

section

variable {m : Type → Type} [Monad m]

/-- A query that is sent to a target. -/
def ways (q : Query) (target : Target m) : Ways m where
  run := q.run target
  execute := q.execute target
  fetchAll := q.fetchAll target
  fetchOne := q.fetchOne target

/-- A query that is made through a wrapper. -/
def waysThrough (q : Query) (g : Graph m) : Ways m where
  run := g.run q
  execute := g.execute q
  fetchAll := g.fetchAll q
  fetchOne := g.fetchOne q

/-- A client can be asked directly, through the target that a wrapper around it is, or by a query that is made
through the wrapper. -/
def fronts (q : Query) (client : Target m) : List (Ways m) :=
  [q.ways client, q.ways (Graph.mk client).target, q.waysThrough (Graph.mk client)]

/-- Whichever way to the client is taken, it is the client that is asked. -/
theorem eq_of_mem_fronts {q : Query} {client : Target m} {front : Ways m} (mem : front ∈ q.fronts client) :
    front = q.ways client := by
  rcases mem with _ | ⟨_, _ | ⟨_, _ | ⟨_, ⟨⟩⟩⟩⟩
  · rfl
  · rfl
  · rfl

end

variable {ω : Type}

/-- However the query is run, it leaves the same behind, and it replies with the rows, with the first of them
or with success alone, or else with the same failure. -/
structure Ways.Answer (ways : Ways (StateM ω)) (before : ω) (reply : Except Failure (List Row)) (after : ω) :
    Prop where
  run : ways.run before = (reply.map fun _ => (), after)
  execute : ways.execute before = (reply, after)
  fetchAll : ways.fetchAll before = (reply, after)
  fetchOne : ways.fetchOne before = (reply.map List.head?, after)

theorem answer_of_error {q : Query} {e : Failure} (failed : q.statement = .error e)
    (target : Target (StateM ω)) (before : ω) : (q.ways target).Answer before (.error e) before := by
  obtain ⟨run, execute, fetchAll, fetchOne⟩ := refuses_of_statement failed target
  refine ⟨?_, ?_, ?_, ?_⟩
  · exact congrFun run before
  · exact congrFun execute before
  · exact congrFun fetchAll before
  · exact congrFun fetchOne before

/-- A target that runs a statement by executing it answers a query as it answers the statement. -/
theorem answer_of_ok {q : Query} {st : Statement} (ok : q.statement = .ok st)
    {execute : Statement → StateM ω (Except Failure (List Row))} {before after : ω}
    {reply : Except Failure (List Row)} (executed : execute st before = (reply, after)) :
    (q.ways (.ofExecute execute)).Answer before reply after := by
  obtain ⟨run, direct, fetchAll, fetchOne⟩ := sends_of_statement ok (Target.ofExecute execute)
  have dropped {α : Type} (f : Except Failure (List Row) → α) : (f <$> execute st) before = (f reply, after) := by
    show ((f (execute st before).1, (execute st before).2) : α × ω) = _
    rw [executed]
  refine ⟨?_, ?_, ?_, ?_⟩
  · exact (congrFun run before).trans (dropped _)
  · exact (congrFun direct before).trans executed
  · exact (congrFun fetchAll before).trans executed
  · exact (congrFun fetchOne before).trans (dropped _)

/-! ## The store and its transactions -/

/-- What a query comes to on the store itself: its reply, and the statements that it journals. -/
inductive Fares (q : Query) (store : Store) : Server.Reply → List Statement → Prop
  /-- Some parameter has no JSON form. -/
  | refused {e : Failure} : q.statement = .error e → Fares q store (.error e) []
  | offline {st : Statement} : q.statement = .ok st → store.offline = true →
      Fares q store (.error (.connection "store is offline")) []
  /-- The rows are those registered for the text, and the statement counts as executed. -/
  | answered {st : Statement} : q.statement = .ok st → store.offline = false →
      Fares q store (.ok (store.rowsFor q.text)) [st]

/-- What a query to which the store itself would give `reply`, journaling `sent`, comes to inside a
transaction: what it would journal is held back, or meets a fault. -/
inductive FaresInside (q : Query) (t : Transaction) (store : Store) (reply : Server.Reply)
    (sent : List Statement) : Server.Reply → Transaction → Store → Prop
  | held : sent = [] ∨ store.faults = 0 →
      FaresInside q t store reply sent reply { pending := t.pending ++ sent } store
  | faulted : sent ≠ [] → 0 < store.faults →
      FaresInside q t store reply sent (.error (.transient ("deadlock detected while executing: " ++ q.text))) t
        { store with faults := store.faults - 1 }

theorem text_of_statement {q : Query} {st : Statement} (ok : q.statement = .ok st) : st.text = q.text := by
  unfold statement at ok
  split at ok <;> cases ok
  rfl

theorem exists_fares (q : Query) (store : Store) : ∃ reply sent, q.Fares store reply sent := by
  cases made : q.statement with
  | error e => exact ⟨_, _, .refused made⟩
  | ok st =>
    cases switched : store.offline with
    | true => exact ⟨_, _, .offline made switched⟩
    | false => exact ⟨_, _, .answered made switched⟩

variable {q : Query} {store : Store} {reply : Server.Reply} {sent : List Statement}

theorem Fares.execute (h : q.Fares store reply sent) {st : Statement} (ok : q.statement = .ok st) :
    store.execute st = (reply, { store with journal := store.journal ++ sent }) := by
  cases h with
  | refused failed => cases failed.symm.trans ok
  | offline made switched =>
    rw [Store.execute, if_pos switched, List.append_nil]
    rfl
  | answered made switched =>
    cases made.symm.trans ok
    rw [Store.execute, if_neg (Bool.eq_false_iff.mp switched), text_of_statement ok]

/-- A query that has no statement changes nothing. -/
theorem Fares.sent_eq_nil (h : q.Fares store reply sent) {e : Failure} (failed : q.statement = .error e) :
    reply = .error e ∧ sent = [] := by
  cases h with
  | refused failed' =>
    cases failed'.symm.trans failed
    exact ⟨rfl, rfl⟩
  | offline made | answered made => cases made.symm.trans failed

theorem Fares.executeInside (h : q.Fares store reply sent) {st : Statement} (ok : q.statement = .ok st)
    (t : Transaction) :
    ∃ reply' t' store', q.FaresInside t store reply sent reply' t' store' ∧
      t.execute store st = (reply', t', store') := by
  have text := text_of_statement ok
  cases h with
  | refused failed => cases failed.symm.trans ok
  | offline made switched =>
    refine ⟨_, _, _, .held (.inl rfl), ?_⟩
    rw [Transaction.execute, if_pos switched, List.append_nil]
    rfl
  | answered made switched =>
    cases made.symm.trans ok
    rcases t.execute_cases store st with ⟨offline, -⟩ | ⟨-, faulty, outcome⟩ | ⟨-, faultless, outcome⟩
    · cases offline.symm.trans switched
    · rw [text] at outcome
      exact ⟨_, _, _, .faulted (List.cons_ne_nil _ _) faulty, outcome⟩
    · rw [text] at outcome
      exact ⟨_, _, _, .held (.inr faultless), outcome⟩

theorem Fares.answers (h : q.Fares store reply sent) :
    (q.ways Store.target).Answer store reply { store with journal := store.journal ++ sent } := by
  cases made : q.statement with
  | error e =>
    obtain ⟨rfl, rfl⟩ := h.sent_eq_nil made
    rw [List.append_nil]
    exact answer_of_error made _ store
  | ok st => exact answer_of_ok made (h.execute made)

theorem Fares.answers_server {server : Server} (h : q.Fares server.store reply sent) :
    (q.ways (Server.target none)).Answer server reply
      { server with store := { server.store with journal := server.store.journal ++ sent } } := by
  cases made : q.statement with
  | error e =>
    obtain ⟨rfl, rfl⟩ := h.sent_eq_nil made
    rw [List.append_nil]
    exact answer_of_error made _ server
  | ok st =>
    refine answer_of_ok made ?_
    show server.step (.execute none st) = _
    rw [Server.step, h.execute made]

/-- An open transaction of a server fares as it would by itself. -/
theorem Fares.answers_inside {server : Server} (h : q.Fares server.store reply sent) (t : Transaction) :
    ∃ reply' t' store', q.FaresInside t server.store reply sent reply' t' store' ∧
      (q.ways Transaction.target).Answer (t, server.store) reply' (t', store') ∧
      ∀ name, server.find? name = some t →
        ∃ server', (q.ways (Server.target (some name))).Answer server reply' server' ∧ server'.store = store' ∧
          ∀ other, server'.find? other = if other = name then some t' else server.find? other := by
  cases made : q.statement with
  | error e =>
    obtain ⟨rfl, rfl⟩ := h.sent_eq_nil made
    refine ⟨_, _, _, .held (.inl rfl), ?_, fun name opened => ?_⟩
    · rw [List.append_nil]
      exact answer_of_error made _ (t, server.store)
    · refine ⟨server, answer_of_error made _ server, rfl, fun other => ?_⟩
      rw [List.append_nil]
      split
      · rename_i same
        rw [same, opened]
      · rfl
  | ok st =>
    obtain ⟨reply', t', store', inside, executed⟩ := h.executeInside made t
    refine ⟨reply', t', store', inside, answer_of_ok made executed, fun name opened => ?_⟩
    refine ⟨{ store := store', opened := Server.update server.opened name t' }, answer_of_ok made ?_, rfl,
      fun other => ?_⟩
    · show server.step (.execute (some name) st) = _
      simp only [Server.step, opened, executed]
    · rw [Server.find?, Server.lookup_update, ← Server.find?, ← Server.find?, opened]
      rfl

/-- **Ways of running a query.** A query is run in four ways, which leave the same behind and reply alike: with
the rows, the first of them or success alone, or with one failure. Sent to the store or to a wrapper around it,
or made through that wrapper, and all this on a server, too, it fares alike and journals its statement; inside an
open transaction the statement is held back instead, or meets a fault, and there is no other difference. The rows
are the last ones that were registered for just its text, and there are none if none were: no parameter and no
statement changes them. -/
theorem paths_agree (text : String) (params : List (String × Except String Json)) (server : Server) :
    let q := (new text).withParams params
    let store := server.store
    ∃ reply sent, q.text = text ∧ q.Fares store reply sent ∧
      (∀ front ∈ q.fronts Store.target,
        front.Answer store reply { store with journal := store.journal ++ sent }) ∧
      (∀ front ∈ q.fronts (Server.target none), front.Answer server reply
        { server with store := { store with journal := store.journal ++ sent } }) ∧
      (∀ t : Transaction, ∃ reply' t' store', q.FaresInside t store reply sent reply' t' store' ∧
        (q.ways Transaction.target).Answer (t, store) reply' (t', store') ∧
        ∀ name, server.find? name = some t →
          ∃ server', (q.ways (Server.target (some name))).Answer server reply' server' ∧ server'.store = store' ∧
            ∀ other, server'.find? other = if other = name then some t' else server.find? other) ∧
      (∀ requests, (server.run requests).2.store.rowsFor text =
        (Server.registrations text requests).getLast?.getD (store.rowsFor text)) ∧
      ({} : Store).rowsFor text = [] := by
  intro q store
  obtain ⟨reply, sent, fares⟩ := q.exists_fares store
  refine ⟨reply, sent, text_withParams (new text) params, fares, ?_, ?_, fares.answers_inside,
    fun requests => server.rowsFor_run requests text, rfl⟩
  · intro front mem
    rw [eq_of_mem_fronts mem]
    exact fares.answers
  · intro front mem
    rw [eq_of_mem_fronts mem]
    exact fares.answers_server

/-- Of two registrations for the text the later one counts: its first row is what the store gives, and all its
rows are what a wrapper around it gives, in both ways to ask it. In the open transaction the same query meets the
fault. -/
theorem paths_agree_registered :
    let row (n : Int) : Row := ⟨[("n", .int n)]⟩
    let server := (({} : Server).run [.respond "READ" [row 1], .respond "READ" [row 2, row 3],
      .respond "OTHER" [], .begin "a", .switch (.faults 1)]).2
    let q := (new "READ").withParams [("x", .ok (.int 5))]
    (q.fetchOne Store.target server.store).1 = .ok (some (row 2)) ∧
      (q.fetchAll (Graph.mk Store.target).target server.store).1 = .ok [row 2, row 3] ∧
      ((Graph.mk Store.target).fetchAll q server.store).1 = .ok [row 2, row 3] ∧
      (q.run (Server.target (some "a")) server).1 =
        .error (.transient "deadlock detected while executing: READ") := by
  intro row server q
  obtain ⟨reply, sent, -, fares, outside, -, inside, -⟩ :=
    paths_agree "READ" [("x", .ok (.int 5))] server
  cases fares with
  | refused failed => cases failed
  | offline made switched => cases switched
  | answered made switched =>
    obtain ⟨reply', t', store', faresInside, -, opened⟩ := inside {}
    obtain ⟨server', answers, -⟩ := opened "a" rfl
    have direct := (outside (q.ways Store.target) (by simp [fronts, q])).fetchOne
    have wrapped := (outside (q.ways (Graph.mk Store.target).target) (by simp [fronts, q])).fetchAll
    have through := (outside (q.waysThrough (Graph.mk Store.target)) (by simp [fronts, q])).fetchAll
    refine ⟨?_, ?_, ?_, ?_⟩
    · exact congrArg Prod.fst direct
    · exact congrArg Prod.fst wrapped
    · exact congrArg Prod.fst through
    · have met := congrArg Prod.fst answers.run
      cases faresInside with
      | held spared => rcases spared with nothing | faultless <;> contradiction
      | faulted => exact met

end Query

end GraphBatch
