import GraphBatch.Proofs.Server.Failures

/-!
# Isolation of transactions

A transaction that does not commit is not seen by anything else. `others` takes from the exchanges with a server
those of one transaction: its statements and its end. `Hides` relates a server to one on which some of the open
transactions are missing and which counted other events; no request that names none of these can tell the two
apart (`Hides.step`), and a request inside a missing one, as long as it does not commit, changes nothing that
the other server has. So the exchanges that are left are those of a server that is sent only their requests
(`Hides.replays_others`).
-/

namespace GraphBatch

/-! ## The log is not read -/

theorem Store.begin_log (s : Store) (log : Log) :
    ∃ log', Store.begin { s with log } = (s.begin.1, { s.begin.2 with log := log' }) := by
  by_cases offline : s.offline
  · exact ⟨log, by simp [begin, offline]⟩
  · exact ⟨{ log with begun := log.begun + 1 }, by simp [begin, offline]⟩

theorem Store.execute_log (s : Store) (log : Log) (st : Statement) :
    Store.execute { s with log } st = ((s.execute st).1, { (s.execute st).2 with log }) := by
  by_cases offline : s.offline
  · simp [execute, offline]
  · simp [execute, offline, rowsFor]

theorem Transaction.execute_log (t : Transaction) (s : Store) (log : Log) (st : Statement) :
    t.execute { s with log } st =
      ((t.execute s st).1, (t.execute s st).2.1, { (t.execute s st).2.2 with log }) := by
  by_cases offline : s.offline
  · simp [execute, offline]
  · by_cases faults : 0 < s.faults
    · simp [execute, offline, faults]
    · simp [execute, offline, faults, Store.rowsFor]

theorem Transaction.commit_log (t : Transaction) (s : Store) (log : Log) :
    ∃ log', t.commit { s with log } = ((t.commit s).1, { (t.commit s).2 with log := log' }) := by
  by_cases refused : s.offline || s.rejectsCommits
  · exact ⟨{ log with rolledBack := log.rolledBack + 1 }, by simp [commit, refused, rollback]⟩
  · exact ⟨{ log with committed := log.committed + 1 }, by simp [commit, refused]⟩

namespace Server

/-! ## A server on which transactions are missing -/

/-- The name that a request is about. -/
def Request.name? : Request → Option String
  | .begin name | .commit name | .rollback name | .drop name => some name
  | .execute on _ => on
  | .respond .. | .switch _ => none

/-- The second server is as the first, without the open transactions of hidden names, and with a log of its
own. -/
structure Hides (hidden : String → Bool) (server reduced : Server) : Prop where
  store : ∃ log, reduced.store = { server.store with log }
  opened : reduced.opened = server.opened.filter fun entry => !hidden entry.1

theorem lookup_filter_visible (opened : List (String × Transaction)) {hidden : String → Bool} {name : String}
    (visible : hidden name = false) :
    (opened.filter fun entry => !hidden entry.1).lookup name = opened.lookup name := by
  induction opened with
  | nil => rfl
  | cons entry opened ih =>
    obtain ⟨key, t⟩ := entry
    by_cases same : name = key
    · subst same
      rw [List.filter_cons_of_pos (by simp [visible]), List.lookup_cons_self, List.lookup_cons_self]
    · rw [List.lookup_cons, beq_eq_false_iff_ne.mpr same, ← ih]
      cases missing : hidden key with
      | true => rw [List.filter_cons_of_neg (by simp [missing])]
      | false =>
        rw [List.filter_cons_of_pos (by simp [missing]), List.lookup_cons, beq_eq_false_iff_ne.mpr same]

/-- An update keeps the names. -/
theorem filter_update (opened : List (String × Transaction)) (hidden : String → Bool) (name : String)
    (t : Transaction) :
    (update opened name t).filter (fun entry => !hidden entry.1) =
      update (opened.filter fun entry => !hidden entry.1) name t := by
  unfold update
  rw [List.filter_map]
  congr 1
  refine List.filter_congr fun entry _ => ?_
  by_cases same : entry.1 = name <;> simp [same]

/-- An update of a hidden name does not show. -/
theorem update_filter_hidden (opened : List (String × Transaction)) (name : String) (t : Transaction) :
    update (opened.filter fun entry => !(entry.1 == name)) name t =
      opened.filter fun entry => !(entry.1 == name) := by
  unfold update
  calc (opened.filter fun entry => !(entry.1 == name)).map (fun entry => if entry.1 = name then (name, t) else entry)
    _ = (opened.filter fun entry => !(entry.1 == name)).map id :=
      List.map_congr_left fun entry mem => if_neg (by simpa using (List.mem_filter.mp mem).2)
    _ = opened.filter fun entry => !(entry.1 == name) := List.map_id _

/-- To close a name that stands for nothing leaves all open transactions. -/
theorem close_of_unopened {server : Server} {name : String} (unopened : server.find? name = none) :
    server.close name = server.opened := by
  unfold close
  refine List.filter_eq_self.mpr fun entry mem => ?_
  rw [bne_comm]
  exact List.lookup_eq_none_iff.mp unopened entry mem

namespace Hides

variable {hidden : String → Bool} {server reduced : Server}

theorem find?_eq (h : Hides hidden server reduced) {name : String} (visible : hidden name = false) :
    reduced.find? name = server.find? name := by
  rw [find?, h.opened, lookup_filter_visible _ visible, find?]

theorem close_eq (h : Hides hidden server reduced) (name : String) :
    reduced.close name = (server.close name).filter fun entry => !hidden entry.1 := by
  rw [close, h.opened, close, List.filter_filter, List.filter_filter]
  simp only [Bool.and_comm]

/-- A request that is about no hidden name has the same reply, and keeps the servers as they are to one
another. -/
theorem step (h : Hides hidden server reduced) {request : Request}
    (visible : ∀ name, request.name? = some name → hidden name = false) :
    (reduced.step request).1 = (server.step request).1 ∧
      Hides hidden (server.step request).2 (reduced.step request).2 := by
  obtain ⟨log, store⟩ := h.store
  cases request with
  | respond text rows =>
    refine ⟨rfl, ⟨log, ?_⟩, h.opened⟩
    simp only [Server.step, store, Store.respond]
  | switch sw =>
    refine ⟨rfl, ⟨log, ?_⟩, h.opened⟩
    simp only [Server.step, store]
    cases sw <;> rfl
  | begin name =>
    obtain ⟨log', began⟩ := server.store.begin_log log
    simp only [Server.step, store, began]
    rcases server.store.begin with ⟨e | t, store'⟩
    · exact ⟨rfl, ⟨log', rfl⟩, h.opened⟩
    · refine ⟨rfl, ⟨log', rfl⟩, ?_⟩
      simp only [h.close_eq]
      rw [List.filter_cons_of_pos (by simp [visible name rfl])]
  | execute on st =>
    cases on with
    | none =>
      simp only [Server.step, store, server.store.execute_log log st]
      exact ⟨trivial, ⟨log, rfl⟩, h.opened⟩
    | some name =>
      simp only [Server.step, h.find?_eq (visible name rfl)]
      cases server.find? name with
      | none => exact ⟨rfl, h⟩
      | some t =>
        simp only [store, t.execute_log server.store log st]
        refine ⟨trivial, ⟨log, rfl⟩, ?_⟩
        simp only [h.opened, filter_update]
  | commit name =>
    simp only [Server.step, h.find?_eq (visible name rfl)]
    cases server.find? name with
    | none => exact ⟨rfl, h⟩
    | some t =>
      obtain ⟨log', committed⟩ := t.commit_log server.store log
      simp only [store, committed]
      exact ⟨trivial, ⟨log', rfl⟩, h.close_eq name⟩
  | rollback name =>
    simp only [Server.step, h.find?_eq (visible name rfl)]
    cases server.find? name with
    | none => exact ⟨rfl, h⟩
    | some t => exact ⟨rfl, ⟨{ log with rolledBack := log.rolledBack + 1 }, by rw [store]; rfl⟩, h.close_eq name⟩
  | drop name => exact ⟨rfl, h.store, h.close_eq name⟩

end Hides

/-! ## Transcripts -/

/-- The exchanges with a server that is sent some requests, in their order. -/
def transcript (server : Server) (requests : List Request) : List Exchange :=
  requests.zip (server.run requests).1

theorem transcript_cons (server : Server) (request : Request) (rest : List Request) :
    server.transcript (request :: rest) =
      (request, (server.step request).1) :: (server.step request).2.transcript rest := rfl

theorem transcript_append (server : Server) (requests later : List Request) :
    server.transcript (requests ++ later) =
      server.transcript requests ++ (server.run requests).2.transcript later := by
  induction requests generalizing server with
  | nil => rfl
  | cons request rest ih =>
    rw [List.cons_append, transcript_cons, transcript_cons, ih, List.cons_append]
    rfl

theorem map_fst_transcript (server : Server) (requests : List Request) :
    (server.transcript requests).map Prod.fst = requests := by
  induction requests generalizing server with
  | nil => rfl
  | cons request rest ih => rw [transcript_cons, List.map_cons, ih]

/-- Where exchanges are cut, so are the requests. -/
theorem transcript_eq_append {server : Server} {requests : List Request} {before after : List Exchange}
    (split : server.transcript requests = before ++ after) :
    ∃ earlier later, requests = earlier ++ later ∧ server.transcript earlier = before ∧
      (server.run earlier).2.transcript later = after := by
  induction before generalizing server requests with
  | nil => exact ⟨[], requests, rfl, rfl, split⟩
  | cons exchange before ih =>
    cases requests with
    | nil => cases split
    | cons request rest =>
      rw [transcript_cons, List.cons_append, List.cons.injEq] at split
      obtain ⟨rfl, split⟩ := split
      obtain ⟨earlier, later, rfl, told, left⟩ := ih split
      exact ⟨request :: earlier, later, rfl, by rw [transcript_cons, told], left⟩

/-- A server that is sent the requests of these exchanges gives their replies, and ends with this store but for
the log. -/
structure Replays (server : Server) (exchanges : List Exchange) (store : Store) : Prop where
  replies : server.transcript (exchanges.map Prod.fst) = exchanges
  store : ∃ log, (server.run (exchanges.map Prod.fst)).2.store = { store with log }

namespace Replays

variable {server : Server} {exchanges : List Exchange} {store : Store}

theorem cons {request : Request} {reply : Reply} (first : (server.step request).1 = reply)
    (rest : Replays (server.step request).2 exchanges store) :
    Replays server ((request, reply) :: exchanges) store where
  replies := by rw [List.map_cons, transcript_cons, rest.replies, first]
  store := rest.store

/-- The exchanges of a run come first, and the server goes on from there. -/
theorem append {requests : List Request} (rest : Replays (server.run requests).2 exchanges store) :
    Replays server (server.transcript requests ++ exchanges) store where
  replies := by rw [List.map_append, map_fst_transcript, transcript_append, rest.replies]
  store := by
    rw [List.map_append, map_fst_transcript, run_append]
    exact rest.store

end Replays

/-! ## The exchanges of a transaction -/

/-- The request is made in the transaction of that name: a statement, or its commit, rollback or drop. -/
def belongs (name : String) : Request → Bool
  | .execute on _ => on == some name
  | .commit other | .rollback other | .drop other => other == name
  | .respond .. | .switch _ | .begin _ => false

/-- The exchange ends the transaction of that name. So does giving the name to another one. -/
def ends (name : String) : Exchange → Bool
  | (.begin other, .ok _) => other == name
  | (.commit other, _) => other == name
  | (.rollback other, _) => other == name
  | (.drop other, _) => other == name
  | _ => false

/-- The exchanges after a transaction has begun, without those in it. -/
def others (name : String) : List Exchange → List Exchange
  | [] => []
  | exchange :: rest =>
    (if belongs name exchange.1 then [] else [exchange]) ++
      if ends name exchange then rest else others name rest

/-- The transaction of that name is still open after these exchanges, or it has ended otherwise than by a commit
that succeeded. -/
def Uncommitted (name : String) (after : List Exchange) : Prop :=
  ∀ rows, after.find? (ends name) ≠ some (.commit name, .ok rows)

/-- A request that is about another name is not made in the transaction. -/
theorem belongs_eq_false {name : String} {request : Request} (other : request.name? ≠ some name) :
    belongs name request = false := by
  cases request with
  | respond | switch | begin => rfl
  | execute on st => exact beq_eq_false_iff_ne.mpr other
  | commit key | rollback key | drop key =>
    exact beq_eq_false_iff_ne.mpr fun same => other (congrArg some same)

/-- Nor does it end it. -/
theorem ends_eq_false {name : String} {request : Request} (other : request.name? ≠ some name) (reply : Reply) :
    ends name (request, reply) = false := by
  cases request with
  | respond | switch | execute => rfl
  | begin key =>
    cases reply with
    | error e => rfl
    | ok rows => exact beq_eq_false_iff_ne.mpr fun same => other (congrArg some same)
  | commit key | rollback key | drop key =>
    exact beq_eq_false_iff_ne.mpr fun same => other (congrArg some same)

theorem Uncommitted.tail {name : String} {exchange : Exchange} {rest : List Exchange}
    (uncommitted : Uncommitted name (exchange :: rest)) (goesOn : ends name exchange = false) :
    Uncommitted name rest := by
  intro rows
  have found := uncommitted rows
  rwa [List.find?_cons_of_neg (by simp [goesOn])] at found

/-- A server without pending faults has none after a request that injects none. -/
theorem step_calm {server : Server} {request : Request} (calm : server.store.faults = 0)
    (injects : ∀ count, request = .switch (.faults count) → count = 0) :
    (server.step request).2.store.faults = 0 := by
  cases request with
  | respond text rows => exact calm
  | switch sw =>
    cases sw with
    | offline on => exact calm
    | rejectCommits on => exact calm
    | faults count => exact injects count rfl
  | begin name =>
    have kept : server.store.begin.2.faults = server.store.faults :=
      congrArg (·.2.2) server.store.switches_begin
    simp only [step]
    rcases began : server.store.begin with ⟨e | t, store⟩ <;> rw [began] at kept <;> exact kept.trans calm
  | execute on st =>
    cases on with
    | none => exact (congrArg (·.2.2) (server.store.switches_execute st)).trans calm
    | some name =>
      simp only [step]
      cases server.find? name with
      | none => exact calm
      | some t =>
        rcases t.execute_cases server.store st with ⟨-, outcome⟩ | ⟨-, left, -⟩ | ⟨-, -, outcome⟩
        · simpa only [outcome] using calm
        · omega
        · simpa only [outcome] using calm
  | commit name =>
    simp only [step]
    cases server.find? name with
    | none => exact calm
    | some t => exact (congrArg (·.2.2) (t.switches_commit server.store)).trans calm
  | rollback name =>
    simp only [step]
    cases server.find? name with
    | none => exact calm
    | some t => exact calm
  | drop name => exact calm

theorem run_calm {server : Server} {requests : List Request} (calm : server.store.faults = 0)
    (injects : ∀ count, .switch (.faults count) ∈ requests → count = 0) :
    (server.run requests).2.store.faults = 0 := by
  induction requests generalizing server with
  | nil => exact calm
  | cons request rest ih =>
    have first : (server.step request).2.store.faults = 0 :=
      step_calm calm fun count same => injects count (same ▸ List.mem_cons_self ..)
    exact ih first fun count mem => injects count (List.mem_cons_of_mem _ mem)

namespace Hides

variable {name : String} {server reduced : Server}

/-- Servers that hide nothing from one another answer all requests alike. -/
theorem replays (h : Hides (fun _ => false) server reduced) (requests : List Request) :
    Replays reduced (server.transcript requests) (server.run requests).2.store := by
  induction requests generalizing server reduced with
  | nil => exact ⟨rfl, h.store⟩
  | cons request rest ih =>
    obtain ⟨same, next⟩ := h.step fun _ _ => rfl
    exact .cons same (ih next)

/-- Once the hidden transaction has ended, nothing is hidden any more. -/
theorem ended (h : Hides (· == name) server reduced) {server' : Server}
    (store : ∃ log, server'.store = { server.store with log }) (opened : server'.opened = server.close name) :
    Hides (fun _ => false) server' reduced where
  store := by
    obtain ⟨log, same⟩ := h.store
    obtain ⟨log', store⟩ := store
    exact ⟨log, by rw [same, store]⟩
  opened := by
    rw [opened, h.opened]
    exact (List.filter_eq_self.mpr fun _ _ => rfl).symm

/-- What is done inside the hidden transaction shows nowhere else. -/
theorem inside (h : Hides (· == name) server reduced) (calm : server.store.faults = 0) (st : Statement) :
    Hides (· == name) (server.step (.execute (some name) st)).2 reduced := by
  simp only [Server.step]
  cases server.find? name with
  | none => exact h
  | some t =>
    have same : (t.execute server.store st).2.2 = server.store := by
      rcases t.execute_cases server.store st with ⟨-, outcome⟩ | ⟨-, left, -⟩ | ⟨-, -, outcome⟩
      · rw [outcome]
      · omega
      · rw [outcome]
    refine ⟨by simpa only [same] using h.store, ?_⟩
    calc reduced.opened
      _ = server.opened.filter fun entry => !(entry.1 == name) := h.opened
      _ = update (server.opened.filter fun entry => !(entry.1 == name)) name _ :=
        (update_filter_hidden _ _ _).symm
      _ = _ := (filter_update _ (· == name) name _).symm

/-- To begin another transaction under the name of the hidden one shows nothing of it, and ends it if it
succeeds. -/
theorem begin (h : Hides (· == name) server reduced) :
    (reduced.step (.begin name)).1 = (server.step (.begin name)).1 ∧
      match (server.step (.begin name)).1 with
      | .ok _ => Hides (fun _ => false) (server.step (.begin name)).2 (reduced.step (.begin name)).2
      | .error _ => Hides (· == name) (server.step (.begin name)).2 (reduced.step (.begin name)).2 := by
  obtain ⟨log, store⟩ := h.store
  obtain ⟨log', began⟩ := server.store.begin_log log
  simp only [Server.step, store, began]
  rcases outcome : server.store.begin with ⟨e | t, store'⟩
  · exact ⟨rfl, ⟨log', rfl⟩, h.opened⟩
  · obtain ⟨rfl, -⟩ := Store.begin_ok outcome
    refine ⟨rfl, ⟨log', rfl⟩, ?_⟩
    have same : reduced.close name = server.close name :=
      (h.close_eq name).trans (List.filter_eq_self.mpr fun entry mem => (List.mem_filter.mp mem).2)
    rw [same]
    exact (List.filter_eq_self.mpr fun _ _ => rfl).symm

/-- A rollback or a drop of the hidden transaction ends it, and so does a commit that fails. -/
theorem rollback (h : Hides (· == name) server reduced) :
    Hides (fun _ => false) (server.step (.rollback name)).2 reduced := by
  simp only [Server.step]
  cases found : server.find? name with
  | none => exact h.ended ⟨_, rfl⟩ (close_of_unopened found).symm
  | some t => exact h.ended ⟨_, rfl⟩ rfl

theorem drop (h : Hides (· == name) server reduced) :
    Hides (fun _ => false) (server.step (.drop name)).2 reduced :=
  h.ended ⟨_, rfl⟩ rfl

theorem commit (h : Hides (· == name) server reduced) {e : Failure}
    (failed : (server.step (.commit name)).1 = .error e) :
    Hides (fun _ => false) (server.step (.commit name)).2 reduced := by
  simp only [Server.step] at failed ⊢
  cases found : server.find? name with
  | none =>
    simp only [found] at failed
    cases failed
  | some t =>
    simp only [found] at failed
    rcases outcome : t.commit server.store with ⟨e' | ⟨⟩, store⟩
    · obtain ⟨-, rfl⟩ := Transaction.commit_error outcome
      exact h.ended ⟨_, congrArg Prod.snd outcome⟩ rfl
    · rw [outcome] at failed
      cases failed

/-- Whatever is done in the hidden transaction, the other exchanges are those of the server that does not have
it, unless the transaction commits. -/
theorem replays_others (h : Hides (· == name) server reduced) (calm : server.store.faults = 0) {requests : List Request}
    (injects : ∀ count, .switch (.faults count) ∈ requests → count = 0)
    (uncommitted : Uncommitted name (server.transcript requests)) :
    Replays reduced (Server.others name (server.transcript requests)) (server.run requests).2.store := by
  induction requests generalizing server reduced with
  | nil => exact ⟨rfl, h.store⟩
  | cons request rest ih =>
    rw [transcript_cons] at uncommitted ⊢
    have still : (server.step request).2.store.faults = 0 :=
      step_calm calm fun count same => injects count (same ▸ List.mem_cons_self ..)
    have later (count : Nat) (mem : .switch (.faults count) ∈ rest) : count = 0 :=
      injects count (List.mem_cons_of_mem _ mem)
    by_cases mine : request.name? = some name
    · cases request with
      | respond text rows => cases mine
      | switch sw => cases mine
      | begin other =>
        obtain rfl : other = name := Option.some.inj mine
        obtain ⟨same, next⟩ := h.begin
        cases replied : (server.step (.begin other)).1 with
        | ok rows =>
          rw [replied] at next same
          simp only [Server.others, belongs, ends, beq_self_eq_true]
          exact .cons same (next.replays rest)
        | error e =>
          rw [replied] at next same uncommitted
          simp only [Server.others, belongs, ends]
          exact .cons same (ih next still later (uncommitted.tail rfl))
      | execute on st =>
        obtain rfl : on = some name := mine
        simp only [Server.others, belongs, ends, beq_self_eq_true]
        exact ih (h.inside calm st) still later (uncommitted.tail rfl)
      | commit other =>
        obtain rfl : other = name := Option.some.inj mine
        simp only [Server.others, belongs, ends, beq_self_eq_true]
        cases replied : (server.step (.commit other)).1 with
        | ok rows =>
          rw [replied] at uncommitted
          exact absurd (by simp [ends]) (uncommitted rows)
        | error e => exact (h.commit replied).replays rest
      | rollback other =>
        obtain rfl : other = name := Option.some.inj mine
        simp only [Server.others, belongs, ends, beq_self_eq_true]
        exact h.rollback.replays rest
      | drop other =>
        obtain rfl : other = name := Option.some.inj mine
        simp only [Server.others, belongs, ends, beq_self_eq_true]
        exact h.drop.replays rest
    · have visible (key : String) (about : request.name? = some key) : (key == name) = false := by
        rw [beq_eq_false_iff_ne]
        rintro rfl
        exact mine about
      obtain ⟨same, next⟩ := h.step visible
      simp only [Server.others, belongs_eq_false mine, ends_eq_false mine]
      exact .cons same (ih next still later (uncommitted.tail (ends_eq_false mine _)))

/-- A transaction that has just begun can be hidden, if the one that its name stood for is dropped. -/
theorem of_begin {rows : List Row} (began : (server.step (.begin name)).1 = .ok rows) :
    Hides (· == name) (server.step (.begin name)).2 (server.step (.drop name)).2 := by
  simp only [Server.step] at began ⊢
  rcases outcome : server.store.begin with ⟨e | t, store⟩
  · rw [outcome] at began
    cases began
  · obtain ⟨rfl, rfl⟩ := Store.begin_ok outcome
    refine ⟨⟨server.store.log, rfl⟩, ?_⟩
    rw [List.filter_cons_of_neg (by simp)]
    exact (List.filter_eq_self.mpr fun entry mem => (List.mem_filter.mp mem).2).symm

end Hides

/-- **Isolation.** Take any requests to a new server, of which none injects transient failures, interleaving any
transactions, and any transaction among them that is left open or ends otherwise than by a commit that succeeds:
it is rolled back, dropped, refused at its commit, or another one is given its name. Without the requests made in
it all others have the same replies, and the store ends with the same journal, registered rows and switches. Where
the name stood for a transaction before, that one is still dropped when it loses the name. -/
theorem uncommitted_invisible {requests : List Request}
    (calm : ∀ count, .switch (.faults count) ∈ requests → count = 0)
    {name : String} {rows : List Row} {before after : List Exchange}
    (split : transcript {} requests = before ++ (.begin name, .ok rows) :: after)
    (uncommitted : Uncommitted name after) :
    let released : List Exchange := if History.isOpen name before.reverse then [(.drop name, .ok [])] else []
    let kept := before ++ released ++ others name after
    transcript {} (kept.map Prod.fst) = kept ∧
      ∃ log, (({} : Server).run (kept.map Prod.fst)).2.store = { (({} : Server).run requests).2.store with log } := by
  intro released kept
  obtain ⟨earlier, later, rfl, told, left⟩ := transcript_eq_append split
  cases later with
  | nil => cases left
  | cons request rest =>
    rw [transcript_cons, List.cons.injEq, Prod.mk.injEq] at left
    obtain ⟨⟨rfl, began⟩, rfl⟩ := left
    let server := (({} : Server).run earlier).2
    have injects (count : Nat) (mem : .switch (.faults count) ∈ earlier) : count = 0 :=
      calm count (List.mem_append_left _ mem)
    have later (count : Nat) (mem : .switch (.faults count) ∈ rest) : count = 0 :=
      calm count (List.mem_append_right _ (List.mem_cons_of_mem _ mem))
    have quiet : (server.step (.begin name)).2.store.faults = 0 :=
      step_calm (run_calm rfl injects) nofun
    have hidden : Replays (server.step (.drop name)).2
        (others name ((server.step (.begin name)).2.transcript rest))
        (server.run (.begin name :: rest)).2.store :=
      (Hides.of_begin began).replays_others quiet later uncommitted
    have accounts : Accounts before.reverse server := by
      simpa [← told, transcript] using Accounts.new.run earlier
    have opened : History.isOpen name before.reverse = (server.find? name).isSome := by
      rw [History.isOpen, ← accounts.held name, Option.isSome_map]
    have goesOn : Replays server (released ++ others name ((server.step (.begin name)).2.transcript rest))
        (server.run (.begin name :: rest)).2.store := by
      unfold released
      rw [opened]
      cases found : server.find? name with
      | some t => exact .cons rfl hidden
      | none =>
        -- Nothing is dropped with the name, so the server is the same without that.
        have same : (server.step (.drop name)).2 = server := by
          simp only [step, close_of_unopened found]
        rwa [same] at hidden
    obtain ⟨replies, store⟩ := goesOn.append
    rw [told, ← List.append_assoc] at replies store
    rw [run_append]
    exact ⟨replies, store⟩

/-- The second transaction called `a` is refused at its commit, between a statement past it and the commit of `b`.
Without it the first one is dropped where it lost its name, and the same is journaled. -/
theorem uncommitted_invisible_interleaved :
    let before : List Request := [.begin "a", .execute (some "a") { text := "a0" }]
    let requests : List Request := before ++ [.begin "a", .begin "b", .execute (some "a") { text := "a1" },
      .execute (some "b") { text := "b1" }, .execute none { text := "direct" }, .switch (.rejectCommits true),
      .commit "a", .switch (.rejectCommits false), .commit "b"]
    let kept : List Request := before ++ [.drop "a", .begin "b", .execute (some "b") { text := "b1" },
      .execute none { text := "direct" }, .switch (.rejectCommits true), .switch (.rejectCommits false),
      .commit "b"]
    transcript {} kept = kept.map (fun request => (request, .ok [])) ∧
      (∃ log, (({} : Server).run kept).2.store = { (({} : Server).run requests).2.store with log }) ∧
      (({} : Server).run kept).2.store.journal.map (·.text) = ["direct", "b1"] := by
  intro before requests kept
  have calm (count : Nat) (mem : .switch (.faults count) ∈ requests) : count = 0 := by
    simp [requests, before] at mem
  have split : transcript {} requests = transcript {} before ++ (.begin "a", .ok []) ::
      (({} : Server).run (before ++ [.begin "a"])).2.transcript (requests.drop 3) := rfl
  have uncommitted : Uncommitted "a"
      ((({} : Server).run (before ++ [.begin "a"])).2.transcript (requests.drop 3)) := by
    intro rows found
    cases found
  obtain ⟨replies, store⟩ := uncommitted_invisible calm split uncommitted
  exact ⟨replies, store, rfl⟩

end Server

end GraphBatch
