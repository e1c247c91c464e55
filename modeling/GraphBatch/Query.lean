import GraphBatch.Store.Server

/-!
# Queries

A target accepts statements, with or without a result: the store itself, one of its transactions,
or a wrapper around either. A query collects the text and the parameters of one statement. A
parameter that has no JSON form is remembered and reported when the query is run, before the target
is touched.
-/

namespace GraphBatch

/-- Somewhere statements can be sent, with effects in `m`. -/
structure Target (m : Type → Type) where
  execute : Statement → m (Except Failure (List Row))
  run : Statement → m (Except Failure Unit)

/-- The target that runs a statement by executing it and dropping the rows. -/
def Target.ofExecute {m : Type → Type} [Functor m]
    (execute : Statement → m (Except Failure (List Row))) : Target m :=
  { execute, run := fun st => (·.map fun _ => ()) <$> execute st }

/-- Statements outside any transaction. -/
def Store.target : Target (StateM Store) :=
  .ofExecute fun st store => store.execute st

/-- Statements inside a transaction. -/
def Transaction.target : Target (StateM (Transaction × Store)) :=
  .ofExecute fun st (t, store) => t.execute store st

def Server.target (on : Option String) : Target (StateM Server) :=
  .ofExecute fun st server => server.step (.execute on st)

/-- A wrapper around a target that passes every statement on. -/
structure Graph (m : Type → Type) where
  client : Target m

def Graph.target {m : Type → Type} (g : Graph m) : Target m :=
  { execute := fun st => g.client.execute st, run := fun st => g.client.run st }

/-- A statement under construction; `invalid` is the first parameter without a JSON form, with the
reason. -/
structure Query where
  text : String
  params : Params := []
  invalid : Option (String × String) := none

namespace Query

variable {m : Type → Type} [Monad m]

def new (text : String) : Query := { text }

/-- Sets a parameter; a later value for the same name replaces an earlier one. -/
def param (q : Query) (name : String) (value : Except String Json) : Query :=
  match value with
  | .ok json => { q with params := q.params.insert name json }
  | .error reason => { q with invalid := q.invalid.or (some (name, reason)) }

def withParams (q : Query) (params : List (String × Except String Json)) : Query :=
  params.foldl (fun q p => q.param p.1 p.2) q

def statement (q : Query) : Except Failure Statement :=
  match q.invalid with
  | some (name, reason) => .error (.badParameter name reason)
  | none => .ok { text := q.text, params := q.params }

/-- The rows of the query. -/
def execute (q : Query) (target : Target m) : m (Except Failure (List Row)) :=
  match q.statement with
  | .error e => pure (.error e)
  | .ok st => target.execute st

def fetchAll (q : Query) (target : Target m) : m (Except Failure (List Row)) :=
  q.execute target

/-- The first row, if there is one. -/
def fetchOne (q : Query) (target : Target m) : m (Except Failure (Option Row)) :=
  (·.map List.head?) <$> q.execute target

def run (q : Query) (target : Target m) : m (Except Failure Unit) :=
  match q.statement with
  | .error e => pure (.error e)
  | .ok st => target.run st

end Query

/-! A query that is made through a wrapper is sent to the wrapped target, however it is run. -/

namespace Graph

variable {m : Type → Type} [Monad m] (g : Graph m) (q : Query)

def execute : m (Except Failure (List Row)) :=
  q.execute g.client

def fetchAll : m (Except Failure (List Row)) :=
  q.fetchAll g.client

def fetchOne : m (Except Failure (Option Row)) :=
  q.fetchOne g.client

def run : m (Except Failure Unit) :=
  q.run g.client

end Graph

end GraphBatch
