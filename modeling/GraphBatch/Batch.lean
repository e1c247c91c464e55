import GraphBatch.Cursor
import GraphBatch.Runner

/-!
# Batches

A batch is the body of one transaction: it draws up to a number of items from a cursor and runs a
unit of work for each. An ordinary failure dooms the batch, but the items left in it are still
tried, so that the boundaries of later batches do not shift; a store failure ends it at once. A
batch that is run again goes on drawing where the failed attempt stopped.
-/

namespace GraphBatch

variable {θ ω σ τ : Type} [Client ω θ]

/-- One item with its position, and the counters as they stand while the unit of work runs. -/
structure Invocation (τ : Type) where
  item : τ
  batch : Nat
  step : Nat
  stats : Stats

/-- The operation run for each item. -/
abbrev UnitOfWork (σ τ : Type) := Invocation τ → Callback σ Unit

/-- An item handed over, with what the unit of work made of it. -/
structure Delivery (τ : Type) where
  invocation : Invocation τ
  result : Except Failure Unit
  account : Account

namespace Delivery

def failure? (d : Delivery τ) : Option Failure :=
  match d.result with
  | .ok () => none
  | .error e => some e

/-- The failure of a delivery that ends its attempt at once. -/
def storeFailure? (d : Delivery τ) : Option Failure :=
  d.failure?.filter Failure.isStore

end Delivery

/-- What the attempts of one batch share: `attempted` counts the items of the current attempt,
`drawn` those of all attempts. -/
structure Progress (σ τ : Type) where
  cursor : Cursor τ
  stats : Stats
  state : σ
  attempted : Nat := 0
  drawn : Nat := 0

namespace Batch

/-- The result of a batch of which the first failure was `failure?`. -/
def verdict (failure? : Option Failure) : Except Failure Unit :=
  match failure? with
  | some e => .error e
  | none => .ok ()

/-- Hands one item over to the unit of work. -/
def handOver (work : UnitOfWork σ τ) (number : Nat) (item : τ) :
    Body θ ω (Delivery τ) (Progress σ τ) Unit := fun p t store =>
  let invocation : Invocation τ :=
    { item
      batch := number
      step := p.attempted + 1
      stats := { p.stats with totalSteps := p.stats.totalSteps + 1 } }
  let o := (work invocation p.state).run t store
  { result := o.value.1
    record := ⟨invocation, o.value.1, o.account⟩
    state :=
      { p with
        stats := invocation.stats
        state := o.value.2
        attempted := p.attempted + 1
        drawn := p.drawn + 1 }
    transaction := o.transaction
    store := o.store }

/-- Draws up to `left` more items. -/
def draw (work : UnitOfWork σ τ) (number : Nat) : Nat → Option Failure →
    Body θ ω (List (Delivery τ)) (Progress σ τ) Unit
  | 0, failure?, p, t, store => ⟨verdict failure?, [], p, t, store⟩
  | left + 1, failure?, p, t, store =>
    match p.cursor.tryAdvance with
    | (none, cursor) => ⟨verdict failure?, [], { p with cursor }, t, store⟩
    | (some item, cursor) =>
      let call := handOver work number item { p with cursor } t store
      match call.record.storeFailure? with
      | some e => ⟨.error e, [call.record], call.state, call.transaction, call.store⟩
      | none =>
        let rest := draw work number left (failure?.or call.record.failure?) call.state
          call.transaction call.store
        { rest with record := call.record :: rest.record }

/-- The body of batch `number`, with up to `size` items for each attempt. -/
def body (work : UnitOfWork σ τ) (number size : Nat) :
    Body θ ω (List (Delivery τ)) (Progress σ τ) Unit := fun p t store =>
  draw work number size none { p with attempted := 0 } t store

/-- The events of an attempt: one for each ordinary failure. -/
def events (record : List (Delivery τ)) : List Event :=
  record.flatMap fun delivery =>
    match delivery.result with
    | .ok () => []
    | .error e =>
      if e.isStore then []
      else
        [⟨.debug, "Unit of work failed, batch will roll back",
          [("batch_number", .int delivery.invocation.batch), ("step_number", .int delivery.invocation.step),
            ("error", .string e.message)]⟩]

end Batch

end GraphBatch
