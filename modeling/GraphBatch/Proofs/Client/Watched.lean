import GraphBatch.Proofs.Runner.Books

/-!
# Watched clients

A watched client notes when a transaction begins on it and when it is handed back, to be committed or to
be rolled back. Watching changes nothing else: programs run on the watched client as on the client itself
(`Program.run_watched`), and so does the runner (`Runner.run_watched`), of which we then see that it
hands back every transaction before it begins another one or returns.
-/

namespace GraphBatch

/-- A transaction has ended once it was handed back, also when the client failed to commit it or to roll
it back. -/
inductive Phase where
  | begun (id : Nat)
  | ended (id : Nat)
deriving DecidableEq, Repr

/-- A client with the phases of the transactions on it, in order. -/
structure Watched (ω : Type) where
  store : ω
  phases : List Phase := []

variable {θ ω κ σ ρ : Type} [Client ω θ]

namespace Watched

/-- A transaction is known by the number of phases before it. -/
instance client : Client (Watched ω) (Nat × θ) where
  begin w :=
    match Client.begin w.store with
    | (.ok t, store) =>
      (.ok (w.phases.length, t), { store, phases := w.phases ++ [.begun w.phases.length] })
    | (.error e, store) => (.error e, { w with store })
  inside t w st :=
    let (reply, t', store) := Client.inside t.2 w.store st
    (reply, (t.1, t'), { w with store })
  outside w st :=
    let (reply, store) := Client.outside w.store st
    (reply, { w with store })
  commit t w :=
    let (reply, store) := Client.commit t.2 w.store
    (reply, { store, phases := w.phases ++ [.ended t.1] })
  rollback t w :=
    let (reply, store) := Client.rollback t.2 w.store
    (reply, { store, phases := w.phases ++ [.ended t.1] })
  set w sw := { w with store := Client.set w.store sw }

/-- The phases of transactions of which each ends before the next one begins. -/
def inTurn (first : Nat) : Nat → List Phase
  | 0 => []
  | count + 1 => .begun first :: .ended first :: inTurn (first + 2) count

@[simp] theorem length_inTurn (first count : Nat) : (inTurn first count).length = 2 * count := by
  induction count generalizing first with
  | zero => rfl
  | succ count ih => simp [inTurn, ih, Nat.mul_succ]

theorem inTurn_add (first m n : Nat) :
    inTurn first (m + n) = inTurn first m ++ inTurn (first + 2 * m) n := by
  induction m generalizing first with
  | zero => rw [Nat.zero_add, Nat.mul_zero, Nat.add_zero, inTurn, List.nil_append]
  | succ m ih =>
    rw [Nat.succ_add, inTurn, inTurn, ih, Nat.add_assoc, Nat.add_comm 2, ← Nat.mul_succ]
    rfl

/-- The watched client after some transactions in turn. -/
def after (w : Watched ω) (count : Nat) (store : ω) : Watched ω :=
  { store, phases := w.phases ++ inTurn w.phases.length count }

omit [Client ω θ] in
@[simp] theorem store_after (w : Watched ω) (count : Nat) (store : ω) :
    (w.after count store).store = store := rfl

omit [Client ω θ] in
theorem after_after (w : Watched ω) (m n : Nat) (store store' : ω) :
    (w.after m store).after n store' = w.after (m + n) store' := by
  simp [after, inTurn_add]

end Watched

/-- On a watched client a program runs as on the client itself; it neither begins nor ends anything. -/
theorem Program.run_watched (p : Program σ) (id : Nat) (t : θ) (w : Watched ω) :
    p.run (id, t) w =
      { value := (p.run t w.store).value
        transaction := (id, (p.run t w.store).transaction)
        store := { w with store := (p.run t w.store).store }
        account := (p.run t w.store).account } := by
  induction p generalizing t w with
  | done value => rfl
  | inside st next ih =>
    rcases h : Client.inside t w.store st with ⟨e | rows, t', store⟩ <;>
      simp [run, Client.inside, h, ih]
  | outside st next ih =>
    rcases h : Client.outside w.store st with ⟨e | rows, store⟩ <;>
      simp [run, Client.outside, h, ih]
  | switch sw next ih => simp [run, Client.set, ih]

/-- The call of a body on a watched client. -/
def Call.watched (call : Call θ ω κ σ ρ) (id : Nat) (phases : List Phase) :
    Call (Nat × θ) (Watched ω) κ σ ρ :=
  { call with
    transaction := (id, call.transaction)
    store := { store := call.store, phases } }

/-- What a body does on a client, done on the watched client. -/
def Body.watched (body : Body θ ω κ σ ρ) : Body (Nat × θ) (Watched ω) κ σ ρ := fun state t w =>
  (body state t.2 w.store).watched t.1 w.phases

theorem Callback.bodyOn_watched (callback : Callback σ ρ) :
    (callback.bodyOn : Body (Nat × θ) (Watched ω) Account σ ρ) =
      Body.watched (callback.bodyOn : Body θ ω Account σ ρ) := by
  funext state ⟨id, t⟩ w
  simp only [bodyOn, Body.watched, Call.watched, Program.run_watched]

namespace Runner

theorem undo_watched (ending : Ending ρ) (id : Nat) (t : θ) (w : Watched ω) :
    undo ending (id, t) w =
      ((undo ending t w.store).1,
        { store := (undo ending t w.store).2, phases := w.phases ++ [.ended id] }) := by
  rcases h : Client.rollback t w.store with ⟨e | ⟨⟩, store⟩ <;> simp [undo, Client.rollback, h]

/-- However a call went, its transaction is handed back. -/
theorem conclude_watched (accepts : ρ → Bool) (call : Call θ ω κ σ ρ) (id : Nat) (phases : List Phase) :
    conclude accepts (call.watched id phases) =
      ((conclude accepts call).1,
        { store := (conclude accepts call).2, phases := phases ++ [.ended id] }) := by
  simp only [conclude, Call.watched, undo_watched]
  cases call.result with
  | error e => rfl
  | ok result =>
    cases accepted : accepts result with
    | false => simp [accepted]
    | true =>
      rcases h : Client.commit call.transaction call.store with ⟨e | ⟨⟩, store⟩ <;>
        simp [accepted, Client.commit, h]

/-- An attempt that begins a transaction hands it back before it ends. -/
theorem attempt_watched (body : Body θ ω κ σ ρ) (accepts : ρ → Bool) (state : σ) (w : Watched ω) :
    attempt body.watched accepts state w =
      ((attempt body accepts state w.store).1, (attempt body accepts state w.store).2.1,
        w.after ([(attempt body accepts state w.store).1].countP Attempt.begins)
          (attempt body accepts state w.store).2.2) := by
  rcases began : Client.begin w.store with ⟨e | t, store⟩
  · simp [attempt, Client.begin, began, Attempt.begins, Attempt.record?, Watched.after, Watched.inTurn]
  · simp [attempt, Client.begin, began, Attempt.begins, Body.watched, conclude_watched, Watched.after,
      Watched.inTurn]
    constructor <;> rfl

/-- The runner works on a watched client as on the client itself, and its transactions take turns. -/
theorem run_watched (runner : Runner) (body : Body θ ω κ σ ρ) (accepts : ρ → Bool) (strategy : Strategy)
    (state : σ) (w : Watched ω) :
    runner.run body.watched accepts strategy state w =
      let run := runner.run body accepts strategy state w.store
      { result := run.result
        state := run.state
        store := w.after (run.attempts.countP Attempt.begins) run.store
        attempts := run.attempts } := by
  let f : List (Attempt κ ρ) → σ → ω → σ × Watched ω := fun made state store =>
    (state, w.after (made.countP Attempt.begins) store)
  have start : f [] state w.store = (state, w) := by simp [f, Watched.after, Watched.inTurn]
  refine Eq.trans ?_ (attempts_along body body.watched f ?_ strategy runner.maxRetries 1 [] state w.store)
  · rw [start]
    rfl
  · intro made state store o
    rw [attempt_watched]
    simp only [f, o, List.countP_append, Watched.after_after, Watched.store_after]

end Runner

end GraphBatch
