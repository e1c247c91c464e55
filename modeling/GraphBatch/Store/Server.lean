import GraphBatch.Store

/-!
# A store with open transactions

A server holds a store and the transactions open on it, each under a name of its own, and answers
requests one at a time, in any interleaving of the transactions. A name that is given to another
transaction lets go of the one that it stood for.
-/

namespace GraphBatch

structure Server where
  store : Store := {}
  opened : List (String × Transaction) := []

namespace Server

/-- `execute none` is a statement outside any transaction. A transaction that is dropped ends
without a commit or a rollback. -/
inductive Request where
  | respond (text : String) (rows : List Row)
  | switch (switch : Store.Switch)
  | begin (name : String)
  | execute (on : Option String) (statement : Statement)
  | commit (name : String)
  | rollback (name : String)
  | drop (name : String)

/-- The rows a request gives, none unless it executes a statement; or its failure. -/
abbrev Reply := Except Failure (List Row)

def find? (server : Server) (name : String) : Option Transaction :=
  server.opened.lookup name

/-- The open transactions but the one called `name`. -/
def close (server : Server) (name : String) : List (String × Transaction) :=
  server.opened.filter (·.1 != name)

/-- The same open transactions with another state of the one called `name`. -/
def update (opened : List (String × Transaction)) (name : String) (t : Transaction) :
    List (String × Transaction) :=
  opened.map fun entry => if entry.1 = name then (name, t) else entry

/-- A closed name stands for nothing, and the others for what they stood for. -/
theorem lookup_close (server : Server) (name other : String) :
    (server.close name).lookup other = if other = name then none else server.find? other := by
  unfold close find?
  induction server.opened with
  | nil => simp
  | cons entry opened ih =>
    obtain ⟨key, t⟩ := entry
    by_cases closed : key = name
    · rw [List.filter_cons_of_neg (by simpa using closed), ih, List.lookup_cons]
      by_cases same : other = name
      · simp [same]
      · simp [same, beq_eq_false_iff_ne.mpr (closed ▸ same)]
    · rw [List.filter_cons_of_pos (by simpa using closed), List.lookup_cons, List.lookup_cons, ih]
      by_cases found : other = key
      · simp [found, closed]
      · simp [beq_eq_false_iff_ne.mpr found]

/-- An update changes what an open name stands for, and opens nothing. -/
theorem lookup_update (opened : List (String × Transaction)) (name other : String) (t : Transaction) :
    (update opened name t).lookup other =
      if other = name then (opened.lookup name).map fun _ => t else opened.lookup other := by
  induction opened with
  | nil => simp [update]
  | cons entry opened ih =>
    obtain ⟨key, held⟩ := entry
    rw [update, List.map_cons, ← update, List.lookup_cons, List.lookup_cons, List.lookup_cons, ih]
    by_cases updated : key = name
    · subst updated
      by_cases same : other = key
      · simp [same]
      · simp [same, beq_eq_false_iff_ne.mpr same]
    · by_cases found : other = key
      · subst found
        simp [updated]
      · simp [updated, beq_eq_false_iff_ne.mpr found, beq_eq_false_iff_ne.mpr (Ne.symm updated)]

/-- Answers a request. One that names no open transaction has no effect. -/
def step (server : Server) : Request → Reply × Server
  | .respond text rows => (.ok [], { server with store := server.store.respond text rows })
  | .switch switch => (.ok [], { server with store := server.store.set switch })
  | .begin name =>
    match server.store.begin with
    | (.ok t, store) => (.ok [], { store, opened := (name, t) :: server.close name })
    | (.error e, store) => (.error e, { server with store })
  | .execute none st =>
    let (rows, store) := server.store.execute st
    (rows, { server with store })
  | .execute (some name) st =>
    match server.find? name with
    | none => (.ok [], server)
    | some t =>
      let (rows, t, store) := t.execute server.store st
      (rows, { store, opened := update server.opened name t })
  | .commit name =>
    match server.find? name with
    | none => (.ok [], server)
    | some t =>
      let (done, store) := t.commit server.store
      (done.map fun _ => [], { store, opened := server.close name })
  | .rollback name =>
    match server.find? name with
    | none => (.ok [], server)
    | some t => (.ok [], { store := t.rollback server.store, opened := server.close name })
  | .drop name => (.ok [], { server with opened := server.close name })

/-- The replies to a list of requests, and the server after them. -/
def run (server : Server) : List Request → List Reply × Server
  | [] => ([], server)
  | request :: rest =>
    let (reply, server) := server.step request
    let (replies, server) := server.run rest
    (reply :: replies, server)

end Server

end GraphBatch
