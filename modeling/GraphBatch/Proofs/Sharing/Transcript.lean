import GraphBatch.Proofs.Sharing.Script

/-!
# Transcripts

A task that has the journaling store for itself leaves a transcript, the operations that the store answered,
and a script of these operations takes the task the same way (`Task.transcribed`). `Transcribed` says so of
anything that is done with a client, and one thing after another is transcribed if both are, so that each
definition of the runner and of the executor is followed once, from single operations up to tasks.
-/

namespace GraphBatch

variable {θ ω α κ σ ρ τ ι : Type}

/-- The store has answered operations that lead it from `s` to `s'`, and a script with these operations next
and the script after them are as `P` says. -/
def Transcribed (s s' : Store) (P : Script → Script → Prop) : Prop :=
  ∃ xs, s.Answers xs s' ∧
    ∀ made rest, P { replies := xs ++ rest, made } { replies := rest, made := made ++ xs }

namespace Transcribed

variable {s s' s'' : Store} {P Q R : Script → Script → Prop}

theorem nothing (h : ∀ a, P a a) : Transcribed s s P := by
  refine ⟨[], .nil s, fun made rest => ?_⟩
  rw [List.append_nil]
  exact h _

theorem one {x : Operation} (answered : s.Answers₁ x s')
    (replayed : ∀ made rest, P { replies := x :: rest, made } { replies := rest, made := made ++ [x] }) :
    Transcribed s s' P :=
  ⟨[x], .one answered, replayed⟩

theorem imp (h : Transcribed s s' P) (implies : ∀ a b, P a b → Q a b) : Transcribed s s' Q := by
  obtain ⟨xs, answers, replayed⟩ := h
  exact ⟨xs, answers, fun made rest => implies _ _ (replayed made rest)⟩

/-- One thing after another. -/
theorem trans (first : Transcribed s s' P) (later : Transcribed s' s'' Q)
    (implies : ∀ a b c, P a b → Q b c → R a c) : Transcribed s s'' R := by
  obtain ⟨xs, answers, replayed⟩ := first
  obtain ⟨ys, answers', replayed'⟩ := later
  refine ⟨xs ++ ys, answers.append answers', fun made rest => ?_⟩
  rw [List.append_assoc, ← List.append_assoc made]
  exact implies _ _ _ (replayed made (ys ++ rest)) (replayed' (made ++ xs) rest)

/-! ## Operations -/

theorem begin {reply : Except Failure Transaction} (h : Client.begin s = (reply, s')) :
    Transcribed s s' fun a b => Client.begin a = (reply, b) :=
  .one (x := .begin reply) h fun _ _ => rfl

theorem inside {t t' : Transaction} {st : Statement} {reply : Except Failure (List Row)}
    (h : Client.inside t s st = (reply, t', s')) :
    Transcribed s s' fun a b => Client.inside t a st = (reply, t', b) :=
  .one (x := .inside t st reply t') h fun _ _ => rfl

theorem outside {st : Statement} {reply : Except Failure (List Row)}
    (h : Client.outside s st = (reply, s')) :
    Transcribed s s' fun a b => Client.outside a st = (reply, b) :=
  .one (x := .outside st reply) h fun _ _ => rfl

theorem set (sw : Store.Switch) : Transcribed s (Client.set s sw) fun a b => Client.set a sw = b :=
  .one (x := .set sw) rfl fun _ _ => rfl

theorem commit {t : Transaction} {reply : Except Failure Unit} (h : Client.commit t s = (reply, s')) :
    Transcribed s s' fun a b => Client.commit t a = (reply, b) :=
  .one (x := .commit t reply) h fun _ _ => rfl

theorem rollback {t : Transaction} {reply : Except Failure Unit} (h : Client.rollback t s = (reply, s')) :
    Transcribed s s' fun a b => Client.rollback t a = (reply, b) :=
  .one (x := .rollback t reply) h fun _ _ => rfl

end Transcribed

/-! ## Programs -/

/-- The same outcome on another client. -/
def Program.Outcome.onto {ω' : Type} (o : Program.Outcome θ ω α) (store : ω') :
    Program.Outcome θ ω' α :=
  { o with store }

theorem Program.transcribed (p : Program α) (t : Transaction) (s : Store) :
    Transcribed s (p.run t s).store fun a b => p.run t a = (p.run t s).onto b := by
  induction p generalizing t s with
  | done value => exact .nothing fun a => rfl
  | inside st next ih =>
    rcases replied : Client.inside t s st with ⟨e | rows, t', s'⟩
    · rw [run, replied]
      refine (Transcribed.inside replied).trans (ih (.error e) t' s') fun a b c here later => ?_
      rw [run, here]
      exact later
    · rw [run, replied]
      refine (Transcribed.inside replied).trans (ih (.ok rows) t' s') fun a b c here later => ?_
      rw [run, here]
      simp only [later]
      rfl
  | outside st next ih =>
    rcases replied : Client.outside s st with ⟨e | rows, s'⟩
    · rw [run, replied]
      refine (Transcribed.outside replied).trans (ih (.error e) t s') fun a b c here later => ?_
      rw [run, here]
      exact later
    · rw [run, replied]
      refine (Transcribed.outside replied).trans (ih (.ok rows) t s') fun a b c here later => ?_
      rw [run, here]
      simp only [later]
      rfl
  | switch sw next ih =>
    refine (Transcribed.set sw).trans (ih t (Client.set s sw)) fun a b c here later => ?_
    rw [run, here]
    exact later

/-! ## Runs -/

/-- The same call on another client. -/
def Call.onto {ω' : Type} (call : Call θ ω κ σ ρ) (store : ω') : Call θ ω' κ σ ρ :=
  { call with store }

/-- The same run on another client. -/
def Run.onto {ω' : Type} (run : Run ω κ σ ρ) (store : ω') : Run ω' κ σ ρ :=
  { run with store }

/-- A body does with a script what it does with the store. -/
def Body.Transcribed (body : Body Transaction Store κ σ ρ) (replay : Body Transaction Script κ σ ρ) :
    Prop :=
  ∀ state t s, GraphBatch.Transcribed s (body state t s).store fun a b =>
    replay state t a = (body state t s).onto b

theorem Callback.transcribed (callback : Callback σ ρ) :
    Body.Transcribed callback.bodyOn callback.bodyOn := by
  intro state t s
  refine ((callback state).transcribed t s).imp fun a b replayed => ?_
  unfold bodyOn
  rw [replayed]
  rfl

namespace Runner

theorem conclude_transcribed {accepts : ρ → Bool} {call : Call Transaction Store κ σ ρ}
    {ending : Ending ρ} {s' : Store} (h : conclude accepts call = (ending, s')) :
    Transcribed call.store s' fun a b => conclude accepts (call.onto a) = (ending, b) := by
  have cases := conclude_cases h
  cases ending with
  | committed result =>
    obtain ⟨ok, accepted, replied⟩ := cases
    refine (Transcribed.commit replied).imp fun a b replayed => ?_
    simp only [conclude, Call.onto, ok, accepted, replayed, if_true]
  | commitFailed result e =>
    obtain ⟨ok, accepted, replied⟩ := cases
    refine (Transcribed.commit replied).imp fun a b replayed => ?_
    simp only [conclude, Call.onto, ok, accepted, replayed, if_true]
  | declined result =>
    obtain ⟨ok, declined, replied⟩ := cases
    refine (Transcribed.rollback replied).imp fun a b replayed => ?_
    simp only [conclude, undo, Call.onto, ok, declined, replayed, Bool.false_eq_true, if_false]
  | rolledBack e =>
    obtain ⟨failed, replied⟩ := cases
    refine (Transcribed.rollback replied).imp fun a b replayed => ?_
    simp only [conclude, undo, Call.onto, failed, replayed]
  | rollbackFailed e => cases cases

variable {body : Body Transaction Store κ σ ρ} {replay : Body Transaction Script κ σ ρ}
  (same : body.Transcribed replay)
include same

theorem attempt_transcribed {accepts : ρ → Bool} {state state' : σ} {s s' : Store} {a : Attempt κ ρ}
    (h : attempt body accepts state s = (a, state', s')) :
    Transcribed s s' fun b c => attempt replay accepts state b = (a, state', c) := by
  cases a with
  | unbegun e =>
    obtain ⟨rfl, refused⟩ := attempt_unbegun h
    refine (Transcribed.begin refused).imp fun b c replayed => ?_
    rw [attempt, replayed]
  | ended record ending =>
    obtain ⟨t, begun, began, rfl, rfl, concluded⟩ := attempt_ended h
    have called := (same state t begun).trans (conclude_transcribed concluded)
      (R := fun b c => conclude accepts (replay state t b) = (ending, c) ∧
        ∃ store, replay state t b = (body state t begun).onto store)
      fun b c d call ended => ⟨call ▸ ended, c, call⟩
    refine (Transcribed.begin began).trans called fun b c d opened rest => ?_
    obtain ⟨ended, store, call⟩ := rest
    rw [attempt, opened]
    simp only [ended]
    rw [call]
    rfl

theorem attempts_transcribed (accepts : ρ → Bool) (strategy : Strategy) (left number : Nat) (state : σ)
    (s : Store) :
    let run := attempts body accepts strategy left number state s
    Transcribed s run.store fun a b =>
      attempts replay accepts strategy left number state a = run.onto b := by
  fun_induction attempts body accepts strategy left number state s with
  | case1 number state s state₁ s₁ left record e transient counted rest step ih =>
    refine (attempt_transcribed same step).trans ih fun a b c here later => ?_
    rw [attempts, here]
    simp only [transient, counted, if_true, later]
    rfl
  | case2 number state s state₁ s₁ left record e transient uncounted step =>
    refine (attempt_transcribed same step).imp fun a b here => ?_
    rw [attempts, here]
    simp only [transient, uncounted, if_true, if_false]
    rfl
  | case3 number state s state₁ s₁ left record e lasting step =>
    refine (attempt_transcribed same step).imp fun a b here => ?_
    rw [attempts, here]
    simp only [lasting]
    rfl
  | case4 left number state s last state₁ s₁ step other =>
    refine (attempt_transcribed same step).imp fun a b here => ?_
    rw [attempts, here]
    dsimp only
    split
    · exact (other _ _ _ rfl rfl).elim
    · rfl

end Runner

/-! ## Batches and executions -/

variable {work : UnitOfWork σ τ}

namespace Batch

theorem handOver_transcribed (work : UnitOfWork σ τ) (number : Nat) (item : τ) :
    Body.Transcribed (handOver work number item) (handOver work number item) := by
  intro p t s
  refine ((work _ p.state).transcribed t s).imp fun a b replayed => ?_
  unfold handOver
  simp only [replayed]
  rfl

theorem draw_transcribed (work : UnitOfWork σ τ) (number left : Nat) (first? : Option Failure) :
    Body.Transcribed (draw work number left first?) (draw work number left first?) := by
  intro p t s
  fun_induction draw work number left first? p t s with
  | case1 first? p t s => exact .nothing fun a => rfl
  | case2 left first? p t s cursor drawn =>
    refine .nothing fun a => ?_
    rw [draw, drawn]
    rfl
  | case3 left first? p t s item cursor drawn call e failed =>
    refine (handOver_transcribed work number item _ t s).imp fun a b here => ?_
    have here : handOver work number item { p with cursor } t a = call.onto b := here
    rw [draw, drawn]
    simp only [here, Call.onto, failed]
  | case4 left first? p t s item cursor drawn call going rest ih =>
    refine (handOver_transcribed work number item _ t s).trans ih fun a b c here later => ?_
    have here : handOver work number item { p with cursor } t a = call.onto b := here
    rw [draw, drawn]
    simp only [here, Call.onto, going, later]
    rfl

theorem body_transcribed (work : UnitOfWork σ τ) (number size : Nat) :
    Body.Transcribed (body work number size) (body work number size) :=
  fun p => draw_transcribed work number size none { p with attempted := 0 }

end Batch

namespace Executor

/-- The same round on another client. -/
def Round.onto {ω' : Type} (r : Round σ τ ω) (store : ω') : Round σ τ ω' :=
  { r with store }

theorem round_transcribed (ex : Executor σ τ) (state : σ) (s : Store) :
    Transcribed s (ex.round state s).store fun a b => ex.round state a = (ex.round state s).onto b := by
  refine (Runner.attempts_transcribed (Batch.body_transcribed ex.work (ex.stats.batches + 1) ex.batchSize)
    (fun _ => true) .carryOn ex.runner.maxRetries 1 (ex.start state) s).imp fun a b replayed => ?_
  have same : ex.batch state a = (ex.batch state s).onto b := replayed
  unfold round
  rw [same]
  rfl

theorem rounds_transcribed (fuel : Nat) (ex : Executor σ τ) (state : σ) (s : Store) :
    Transcribed s (rounds fuel ex state s).store fun a b => (rounds fuel ex state a).store = b := by
  fun_induction rounds fuel ex state s with
  | case1 ex state s => exact .nothing fun a => rfl
  | case2 fuel ex state s r ending ended =>
    refine (ex.round_transcribed state s).imp fun a b here => ?_
    have here : ex.round state a = r.onto b := here
    rw [rounds, here]
    simp only [Round.onto, ended]
  | case3 fuel ex state s r going rest ih =>
    refine (ex.round_transcribed state s).trans ih fun a b c here later => ?_
    have here : ex.round state a = r.onto b := here
    rw [rounds, here]
    simp only [Round.onto, going]
    exact later

end Executor

/-! ## Tasks -/

theorem Builder.transactionalInput_transcribed (builder : Builder σ τ) (callback : Callback ι (Sequence τ))
    (state : ι) (s : Store) :
    Transcribed s (builder.transactionalInput callback state s).store fun a b =>
      (builder.transactionalInput callback state a).store = b := by
  unfold transactionalInput
  split
  · exact .nothing fun a => rfl
  · refine (Runner.attempts_transcribed callback.transcribed (fun _ => true) .rethrow
      builder.runner.maxRetries 1 state s).imp fun a b replayed => ?_
    exact congrArg Run.store replayed

namespace Task

/-- A task that has the store for itself is finished with the operations that the store has answered. -/
theorem transcribed (task : Task) (s : Store) :
    ∃ xs, s.Answers xs (task.on s) ∧ task.Finishes xs := by
  have followed : Transcribed s (task.on s) fun a b => task.on a = b := by
    cases task with
    | run runner callback accepts strategy state =>
      refine (Runner.attempts_transcribed callback.transcribed accepts strategy runner.maxRetries 1
        state s).imp fun a b replayed => ?_
      exact congrArg Run.store replayed
    | prepare builder callback state => exact builder.transactionalInput_transcribed callback state s
    | execute ex state => exact ex.rounds_transcribed ex.fuel state s
  obtain ⟨xs, answers, replayed⟩ := followed
  refine ⟨xs, answers, ?_⟩
  have finished := replayed [] []
  rwa [List.append_nil] at finished

end Task

end GraphBatch
