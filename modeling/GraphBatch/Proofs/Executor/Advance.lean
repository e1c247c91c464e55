import GraphBatch.Proofs.Executor.BatchRun

/-!
# How an executor advances

`Advances` says in one place how an executor and its counters change with the batches it has run:
`advances_round` proves it of one batch and `advances_rounds` of the batches of an execution, and the
laws of the counters are read off it. `ended_of_execute` says when an execution ends well: when its
input is at its end.
-/

namespace GraphBatch

variable {θ ω σ τ : Type} [Client ω θ]

namespace BatchRecord

/-- The items handed over in the batch, over all attempts. -/
def deliveries (b : BatchRecord τ) : List (Delivery τ) :=
  b.attempts.flatMap Attempt.deliveries

/-- The items handed over in attempts that committed. -/
def kept (b : BatchRecord τ) : List (Delivery τ) :=
  b.attempts.flatMap Attempt.kept

/-- The batch has an item whose attempt did not commit. -/
def loses (b : BatchRecord τ) : Bool :=
  b.attempts.any Attempt.loses

/-- The batch has drawn an item. -/
def drew (b : BatchRecord τ) : Bool :=
  !b.deliveries.isEmpty

/-- The batch ended its execution with a failure after items were drawn. -/
def isBroken (b : BatchRecord τ) : Bool :=
  match b.conclusion with
  | .broken _ => true
  | _ => false

theorem drew_of_loses {b : BatchRecord τ} (h : b.loses = true) : b.drew = true := by
  obtain ⟨a, mem, lost⟩ := List.any_eq_true.mp h
  simp only [Attempt.loses, Bool.and_eq_true, Bool.not_eq_true', List.isEmpty_eq_false_iff] at lost
  rw [drew, Bool.not_eq_true', List.isEmpty_eq_false_iff]
  intro nothing
  exact lost.2 (List.flatMap_eq_nil_iff.mp nothing a mem)

end BatchRecord

/-- The attempts of an execution, in order. -/
def Execution.attempts {ω : Type} (e : Execution σ τ ω) : List (Attempt (List (Delivery τ)) Unit) :=
  e.batches.flatMap (·.attempts)

/-- The execution ended with a failure after its last batch had drawn an item. -/
def Execution.isBroken {ω : Type} (e : Execution σ τ ω) : Bool :=
  !e.result.isOk && e.batches.getLast?.any BatchRecord.drew

theorem Execution.isBroken_of_ok {ω : Type} {e : Execution σ τ ω} {stats : Stats}
    (ok : e.result = .ok stats) : e.isBroken = false := by
  rw [isBroken, ok]
  rfl

/-- A series of attempts loses items exactly if it keeps fewer than it delivers. -/
theorem length_kept_lt_iff (as : List (Attempt (List (Delivery τ)) Unit)) :
    (as.flatMap Attempt.kept).length ≤ (as.flatMap Attempt.deliveries).length ∧
      ((as.flatMap Attempt.kept).length < (as.flatMap Attempt.deliveries).length ↔
        as.any Attempt.loses = true) := by
  induction as with
  | nil => simp
  | cons a as ih =>
    obtain ⟨le, lt_iff⟩ := ih
    simp only [List.flatMap_cons, List.length_append, List.any_cons, Bool.or_eq_true, ← lt_iff]
    rw [a.kept_eq]
    cases lost : a.loses with
    | false =>
      simp only [Bool.false_eq_true, ↓reduceIte, false_or]
      omega
    | true =>
      have drew : 0 < a.deliveries.length := by
        simp only [Attempt.loses, Bool.and_eq_true, Bool.not_eq_true', List.isEmpty_eq_false_iff] at lost
        exact List.length_pos_iff.mpr lost.2
      simp only [↓reduceIte, List.length_nil, true_or, iff_true]
      omega

/-- Deliveries that lead from one executor to another, batch by batch. -/
structure Executor.Advances (ex : Executor σ τ) (bs : List (BatchRecord τ)) (ex' : Executor σ τ) :
    Prop where
  work : ex'.work = ex.work
  runner : ex'.runner = ex.runner
  batchSize : ex'.batchSize = ex.batchSize
  length : ex'.length = ex.length
  draws : ex.cursor.Draws ((bs.flatMap BatchRecord.deliveries).map (·.invocation.item)) ex'.cursor
  totalSteps : ex'.stats.totalSteps =
    ex.stats.totalSteps + (bs.flatMap BatchRecord.deliveries).length
  batches : ex'.stats.batches = ex.stats.batches + bs.countP BatchRecord.drew
  successfulSteps : ex'.stats.successfulSteps =
    ex.stats.successfulSteps + (bs.flatMap BatchRecord.kept).length
  /-- A broken batch has lost items and goes uncounted. -/
  failedBatches : ex'.stats.failedBatches + bs.countP BatchRecord.isBroken =
    ex.stats.failedBatches + bs.countP BatchRecord.loses
  /-- Batches that draw an item are numbered without gaps. -/
  numbers : (bs.filter BatchRecord.drew).map (·.number) =
    List.range' (ex.stats.batches + 1) (bs.countP BatchRecord.drew)

namespace Executor.Advances

variable {ex ex' ex'' : Executor σ τ} {bs bs' : List (BatchRecord τ)}

theorem nil (ex : Executor σ τ) : ex.Advances [] ex where
  work := rfl
  runner := rfl
  batchSize := rfl
  length := rfl
  draws := .nil _
  totalSteps := rfl
  batches := rfl
  successfulSteps := rfl
  failedBatches := rfl
  numbers := rfl

theorem append (h : ex.Advances bs ex') (h' : ex'.Advances bs' ex'') :
    ex.Advances (bs ++ bs') ex'' where
  work := h'.work.trans h.work
  runner := h'.runner.trans h.runner
  batchSize := h'.batchSize.trans h.batchSize
  length := h'.length.trans h.length
  draws := by
    rw [List.flatMap_append, List.map_append]
    exact h.draws.append h'.draws
  totalSteps := by
    rw [h'.totalSteps, h.totalSteps, List.flatMap_append, List.length_append, Nat.add_assoc]
  batches := by rw [h'.batches, h.batches, List.countP_append, Nat.add_assoc]
  successfulSteps := by
    rw [h'.successfulSteps, h.successfulSteps, List.flatMap_append, List.length_append, Nat.add_assoc]
  failedBatches := by
    have first := h.failedBatches
    have second := h'.failedBatches
    rw [List.countP_append, List.countP_append]
    omega
  numbers := by
    rw [List.filter_append, List.map_append, h.numbers, h'.numbers, h.batches, List.countP_append,
      Nat.add_right_comm, List.range'_append_1]

/-- Batches that draw items are told apart by their numbers. -/
theorem nodup_numbers (h : ex.Advances bs ex') :
    ((bs.filter BatchRecord.drew).map (·.number)).Nodup := by
  rw [h.numbers]
  exact List.nodup_range'

end Executor.Advances

namespace Conclusion

/-- The four ways a batch can end, told apart by what it drew and by the result of its run. -/
theorem of_cases (p : Progress σ τ) (result : Except Failure (Option Unit)) :
    (p.drawn = 0 ∧ of p result = empty) ∨
      (0 < p.drawn ∧ (∃ e, result = .error e) ∧ of p result = broken p.drawn) ∨
      (0 < p.drawn ∧ result = .ok (some ()) ∧ of p result = committed p.attempted p.drawn) ∨
      (0 < p.drawn ∧ result = .ok none ∧ of p result = rolledBack p.drawn) := by
  rcases Nat.eq_zero_or_pos p.drawn with none | some
  · exact .inl ⟨none, if_pos none⟩
  · have drew : p.drawn ≠ 0 := Nat.ne_of_gt some
    rcases result with e | (- | ⟨⟩)
    · exact .inr (.inl ⟨some, ⟨e, rfl⟩, if_neg drew⟩)
    · exact .inr (.inr (.inr ⟨some, rfl, if_neg drew⟩))
    · exact .inr (.inr (.inl ⟨some, rfl, if_neg drew⟩))

end Conclusion

namespace Executor

variable (ex : Executor σ τ) (state : σ) (store : ω)

theorem stats_batch : (ex.batch state store).state.stats =
    { ex.stats with
      batches := ex.stats.batches + 1
      totalSteps := ex.stats.totalSteps + (ex.round state store).record.deliveries.length } :=
  (ex.moves_batch state store).stats

theorem drawn_round :
    (ex.batch state store).state.drawn = (ex.round state store).record.deliveries.length :=
  ex.drawn_batch state store

theorem drew_round :
    (ex.round state store).record.drew = decide (0 < (ex.batch state store).state.drawn) := by
  rw [drawn_round, BatchRecord.drew]
  cases (ex.round state store).record.deliveries <;> rfl

theorem loses_round : (ex.round state store).record.loses =
    decide ((ex.round state store).record.kept.length <
      (ex.round state store).record.deliveries.length) :=
  Bool.eq_iff_iff.mpr ((length_kept_lt_iff _).2.symm.trans decide_eq_true_iff.symm)

theorem isBroken_round : (ex.round state store).record.isBroken =
    ((ex.round state store).record.drew && !(ex.batch state store).result.isOk) := by
  rw [drew_round]
  show (match Conclusion.of (ex.batch state store).state (ex.batch state store).result with
    | .broken _ => true
    | _ => false) = _
  rcases Conclusion.of_cases (ex.batch state store).state (ex.batch state store).result with
    ⟨none, eq⟩ | ⟨some, ⟨e, failed⟩, eq⟩ | ⟨-, committed, eq⟩ | ⟨-, rolledBack, eq⟩ <;> rw [eq]
  · simp [none]
  · simp [some, failed, Except.isOk, Except.toBool]
  · simp [committed, Except.isOk, Except.toBool]
  · simp [rolledBack, Except.isOk, Except.toBool]

/-- What a batch makes of the counters: a batch that loses items counts as failed unless it is broken. -/
theorem stats_round : (ex.round state store).executor.stats =
    { totalSteps := ex.stats.totalSteps + (ex.round state store).record.deliveries.length
      batches := ex.stats.batches + if (ex.round state store).record.drew then 1 else 0
      successfulSteps := ex.stats.successfulSteps + (ex.round state store).record.kept.length
      failedBatches := ex.stats.failedBatches +
        if (ex.round state store).record.loses && !(ex.round state store).record.isBroken then 1
        else 0 } := by
  have kept_of_not_ok (h : (ex.batch state store).result ≠ .ok (some ())) :
      (ex.round state store).record.kept = [] := ex.kept_batch state store h
  show (Conclusion.of (ex.batch state store).state _).enter _ = _
  rw [stats_batch, isBroken_round, loses_round, drew_round, ← drawn_round]
  rcases Conclusion.of_cases (ex.batch state store).state (ex.batch state store).result with
    ⟨none, eq⟩ | ⟨some, ⟨e, failed⟩, eq⟩ | ⟨some, committed, eq⟩ | ⟨some, rolledBack, eq⟩ <;> rw [eq]
  · have kept : (ex.round state store).record.kept.length = 0 := by
      have le := (length_kept_lt_iff (ex.batch state store).attempts).1
      rw [← drawn_batch, none] at le
      exact Nat.le_zero.mp le
    simp [none, kept, Conclusion.enter]
  · have kept := kept_of_not_ok (by rw [failed]; simp)
    simp [failed, kept, some, Conclusion.enter, Except.isOk, Except.toBool]
  · have kept : (ex.round state store).record.kept.length = (ex.batch state store).state.attempted :=
      ex.length_kept_batch state store committed
    rw [committed, kept, decide_eq_true some]
    by_cases lost : (ex.batch state store).state.attempted < (ex.batch state store).state.drawn <;>
      simp [lost, Conclusion.enter, Except.isOk, Except.toBool]
  · have kept := kept_of_not_ok (by rw [rolledBack]; simp)
    simp [rolledBack, kept, some, Conclusion.enter, Except.isOk, Except.toBool]

theorem loses_of_isBroken (broken : (ex.round state store).record.isBroken = true) :
    (ex.round state store).record.loses = true := by
  rw [isBroken_round, drew_round, Bool.and_eq_true, decide_eq_true_iff, drawn_round] at broken
  obtain ⟨drew, failed⟩ := broken
  have kept : (ex.round state store).record.kept = [] :=
    ex.kept_batch state store fun ok => by simp [ok, Except.isOk, Except.toBool] at failed
  rw [loses_round, kept]
  exact decide_eq_true drew

/-- One batch advances the executor. -/
theorem advances_round : ex.Advances [(ex.round state store).record] (ex.round state store).executor where
  work := rfl
  runner := rfl
  batchSize := rfl
  length := rfl
  draws := by
    rw [List.flatMap_singleton]
    exact (ex.moves_batch state store).draws
  totalSteps := by
    rw [stats_round, List.flatMap_singleton]
  batches := by rw [stats_round, List.countP_singleton]
  successfulSteps := by rw [stats_round, List.flatMap_singleton]
  failedBatches := by
    rw [stats_round, List.countP_singleton, List.countP_singleton]
    cases broken : (ex.round state store).record.isBroken with
    | false => simp
    | true => simp [ex.loses_of_isBroken state store broken]
  numbers := by
    rw [List.countP_singleton, List.filter_cons, List.filter_nil]
    cases (ex.round state store).record.drew <;> rfl

/-- The batches of an execution advance the executor. -/
theorem advances_rounds (fuel : Nat) (ex : Executor σ τ) (state : σ) (store : ω) :
    ex.Advances (rounds fuel ex state store).batches (rounds fuel ex state store).executor := by
  fun_induction rounds fuel ex state store with
  | case1 ex state store => exact .nil ex
  | case2 fuel ex state store r ending ended => exact ex.advances_round state store
  | case3 fuel ex state store r going rest ih => exact (ex.advances_round state store).append ih

theorem advances_execute :
    ex.Advances (ex.execute state store).batches (ex.execute state store).executor :=
  advances_rounds ..

/-- What every attempt at a batch keeps of the client is kept by an execution, and what holds of every
attempt at a batch holds of those of the execution. -/
theorem kept_rounds {fuel : Nat} {ex : Executor σ τ} {state : σ} {store : ω} {I : ω → Prop}
    {P : Attempt (List (Delivery τ)) Unit → Prop}
    (each : ∀ {number : Nat} {p : Progress σ τ} {store : ω} {a : Attempt (List (Delivery τ)) Unit}
      {p' : Progress σ τ} {store' : ω}, I store →
      Runner.attempt (Batch.body ex.work number ex.batchSize) (fun _ => true) p store =
        (a, p', store') → I store' ∧ P a)
    (start : I store) :
    I (rounds fuel ex state store).store ∧ ∀ a ∈ (rounds fuel ex state store).attempts, P a := by
  fun_induction rounds fuel ex state store with
  | case1 ex state store => exact ⟨start, fun a mem => absurd mem List.not_mem_nil⟩
  | case2 fuel ex state store r ending ended =>
    rw [Execution.attempts, List.flatMap_singleton]
    exact (ex.tries_batch state store).kept each start
  | case3 fuel ex state store r going rest ih =>
    obtain ⟨kept, holds⟩ := (ex.tries_batch state store).kept each start
    obtain ⟨kept, later⟩ := ih each kept
    exact ⟨kept, List.forall_mem_append.mpr ⟨holds, later⟩⟩

theorem forall_attempts_rounds {fuel : Nat} {ex : Executor σ τ} {state : σ} {store : ω}
    {P : Attempt (List (Delivery τ)) Unit → Prop}
    (each : ∀ {number : Nat} {p : Progress σ τ} {store : ω} {a : Attempt (List (Delivery τ)) Unit}
      {p' : Progress σ τ} {store' : ω},
      Runner.attempt (Batch.body ex.work number ex.batchSize) (fun _ => true) p store =
        (a, p', store') → P a) :
    ∀ a ∈ (rounds fuel ex state store).attempts, P a :=
  (kept_rounds (I := fun _ => True) (fun _ step => ⟨trivial, each step⟩) trivial).2

theorem forall_attempts_execute {ex : Executor σ τ} {state : σ} {store : ω}
    {P : Attempt (List (Delivery τ)) Unit → Prop}
    (each : ∀ {number : Nat} {p : Progress σ τ} {store : ω} {a : Attempt (List (Delivery τ)) Unit}
      {p' : Progress σ τ} {store' : ω},
      Runner.attempt (Batch.body ex.work number ex.batchSize) (fun _ => true) p store =
        (a, p', store') → P a) :
    ∀ a ∈ (ex.execute state store).attempts, P a :=
  forall_attempts_rounds each

/-! ## The end of an execution -/

theorem attempted_le_drawn {committed? : Option Unit}
    (ok : (ex.batch state store).result = .ok committed?) :
    (ex.batch state store).state.attempted ≤ (ex.batch state store).state.drawn := by
  obtain ⟨before, record, ending, attempts, -, -, attempted⟩ := ex.attempted_batch state store ok
  rw [drawn_batch, attempts, List.flatMap_append, List.length_append, attempted]
  exact Nat.le_add_left_of_le (by simp [Attempt.deliveries])

/-- A batch that is committed or rolled back is the last one if its last attempt has drawn nothing. -/
theorem ending_of_ok {committed? : Option Unit} (ok : (ex.batch state store).result = .ok committed?) :
    (ex.round state store).ending =
      if (ex.batch state store).state.attempted = 0 then some (.ok ()) else none := by
  have le := ex.attempted_le_drawn state store ok
  show ending _ _ = _
  unfold ending
  rw [ok]
  by_cases none : (ex.batch state store).state.drawn = 0
  · rw [if_pos none, if_pos (Nat.le_zero.mp (none ▸ le))]
    rfl
  · exact if_neg none

/-- A round goes on to the next batch, finds the end of the input or ends with the failure of its
batch. -/
theorem ending_cases :
    ((ex.round state store).ending = none ∧ (ex.round state store).record.drew = true ∧
      (ex.batch state store).result.isOk = true) ∨
    ((ex.round state store).ending = some (.ok ()) ∧ (ex.batch state store).state.attempted = 0 ∧
      ∃ committed?, (ex.batch state store).result = .ok committed?) ∨
    ∃ e, (ex.round state store).ending = some (.error e) ∧
      (ex.batch state store).result = .error e := by
  cases h : (ex.batch state store).result with
  | error e =>
    refine .inr (.inr ⟨e, ?_, rfl⟩)
    show ending _ _ = _
    simp [ending, h, Except.map]
  | ok committed? =>
    have ended := ex.ending_of_ok state store h
    by_cases none : (ex.batch state store).state.attempted = 0
    · rw [if_pos none] at ended
      exact .inr (.inl ⟨ended, none, committed?, rfl⟩)
    · rw [if_neg none] at ended
      have drew := Nat.lt_of_lt_of_le (Nat.pos_of_ne_zero none) (ex.attempted_le_drawn state store h)
      exact .inl ⟨ended, by rw [drew_round]; exact decide_eq_true drew, rfl⟩

/-- Executions that end with a failure have run a batch. -/
theorem batches_ne_nil (fuel : Nat) (ex : Executor σ τ) (state : σ) (store : ω)
    (failed : (rounds fuel ex state store).result.isOk = false) :
    (rounds fuel ex state store).batches ≠ [] := by
  fun_cases rounds fuel ex state store with
  | case1 ex state store => cases failed
  | case2 fuel r ending ended => exact List.cons_ne_nil _ _
  | case3 fuel r going rest => exact List.cons_ne_nil _ _

/-- A batch that ends its execution is broken if that ends with a failure after items were drawn. -/
theorem isBroken_of_ending {ending : Except Failure Unit} (ended : (ex.round state store).ending = some ending) :
    (ex.round state store).record.isBroken = (!ending.isOk && (ex.round state store).record.drew) := by
  rw [isBroken_round, Bool.and_comm]
  rcases ex.ending_cases state store with ⟨going, -⟩ | ⟨well, -, committed?, ok⟩ | ⟨e, failed, error⟩
  · cases going.symm.trans ended
  · cases well.symm.trans ended
    rw [ok]
    rfl
  · cases failed.symm.trans ended
    rw [error]
    rfl

theorem isBroken_of_going (going : (ex.round state store).ending = none) :
    (ex.round state store).record.isBroken = false := by
  rw [isBroken_round]
  rcases ex.ending_cases state store with ⟨-, -, ok⟩ | ⟨well, -⟩ | ⟨e, failed, -⟩
  · rw [ok, Bool.not_true, Bool.and_false]
  · cases well.symm.trans going
  · cases failed.symm.trans going

/-- Of the batches of an execution only the last can be broken, and it is if the execution is. -/
theorem countP_isBroken_rounds (fuel : Nat) (ex : Executor σ τ) (state : σ) (store : ω) :
    (rounds fuel ex state store).batches.countP BatchRecord.isBroken =
      if (rounds fuel ex state store).isBroken then 1 else 0 := by
  fun_induction rounds fuel ex state store with
  | case1 ex state store => rfl
  | case2 fuel ex state store r ending ended =>
    have broken : r.record.isBroken = (!ending.isOk && r.record.drew) :=
      ex.isBroken_of_ending state store ended
    rw [List.countP_singleton, broken]
    cases ending <;> rfl
  | case3 fuel ex state store r going rest ih =>
    have whole : r.record.isBroken = false := ex.isBroken_of_going state store going
    rw [List.countP_cons_of_neg (Bool.eq_false_iff.mp whole), ih]
    cases ok : (rounds fuel r.executor r.state r.store).result.isOk with
    | true => simp [Execution.isBroken, ok, rest]
    | false =>
      obtain ⟨b, bs, eq⟩ := List.exists_cons_of_ne_nil (batches_ne_nil _ _ _ _ ok)
      simp [Execution.isBroken, ok, rest, eq, List.getLast?_cons_cons]

/-- An executor that can be run: its batches hold items, and its input ends. -/
structure Sound (ex : Executor σ τ) : Prop where
  size : 0 < ex.batchSize
  within : ex.cursor.Within ex.length

/-- The items that an executor has still to hand over. -/
def left (ex : Executor σ τ) : List τ :=
  ex.cursor.left ex.length

namespace Advances

variable {ex ex' : Executor σ τ} {bs : List (BatchRecord τ)}

theorem sound (h : ex.Advances bs ex') (sound : ex.Sound) : ex'.Sound where
  size := h.batchSize ▸ sound.size
  within := h.length ▸ h.draws.within sound.within

/-- The deliveries of an advance are taken from the front of the items left. -/
theorem left (h : ex.Advances bs ex') (sound : ex.Sound) :
    ex.left = (bs.flatMap BatchRecord.deliveries).map (·.invocation.item) ++ ex'.left := by
  unfold Executor.left
  rw [h.length]
  exact h.draws.left sound.within

end Advances

variable {ex state store}

/-- A round that ends well has found the end of the input. -/
theorem ended_of_round (sound : ex.Sound) (h : (ex.round state store).ending = some (.ok ())) :
    (ex.round state store).executor.cursor.ended = true := by
  rcases ex.ending_cases state store with ⟨going, -⟩ | ⟨-, none, committed?, ok⟩ | ⟨e, failed, -⟩
  · rw [h] at going
    cases going
  · exact ex.ended_batch state store ok none sound.size sound.within
  · rw [h] at failed
    cases failed

/-- A round that is not the last hands over an item. -/
theorem length_left_round (sound : ex.Sound) (h : (ex.round state store).ending = none) :
    (ex.round state store).executor.left.length < ex.left.length := by
  rcases ex.ending_cases state store with ⟨-, drew, -⟩ | ⟨ended, -⟩ | ⟨e, failed, -⟩
  · have some : 0 < (ex.round state store).record.deliveries.length := by
      rw [BatchRecord.drew, Bool.not_eq_true', List.isEmpty_eq_false_iff] at drew
      exact List.length_pos_iff.mpr drew
    rw [(ex.advances_round state store).left sound]
    simp only [List.flatMap_cons, List.flatMap_nil, List.append_nil, List.length_append,
      List.length_map]
    omega
  · rw [h] at ended
    cases ended
  · rw [h] at failed
    cases failed

/-- An execution that ends well has found the end of the input: its fuel does not run out before. -/
theorem ended_of_rounds {fuel : Nat} (sound : ex.Sound) (enough : ex.left.length < fuel) {stats : Stats}
    (h : (rounds fuel ex state store).result = .ok stats) :
    (rounds fuel ex state store).executor.cursor.ended = true := by
  fun_induction rounds fuel ex state store with
  | case1 ex state store => exact absurd enough (Nat.not_lt_zero _)
  | case2 fuel ex state store r ending ended =>
    cases ending with
    | error e => cases h
    | ok => exact ended_of_round sound ended
  | case3 fuel ex state store r going rest ih =>
    have less : r.executor.left.length < ex.left.length := length_left_round sound going
    exact ih ((ex.advances_round state store).sound sound) (by omega) h

theorem length_left_lt_fuel (sound : ex.Sound) : ex.left.length < ex.fuel := by
  have bound : ex.left.length + ex.cursor.asked ≤ ex.length + 1 := sound.within.length_left
  unfold fuel
  omega

/-- An execution runs a batch in any case. -/
theorem Sound.execute_eq (sound : ex.Sound) (state : σ) (store : ω) :
    ∃ fuel, ex.execute state store = rounds (fuel + 1) ex state store := by
  obtain ⟨fuel, enough⟩ := Nat.exists_eq_add_one_of_ne_zero (Nat.ne_zero_of_lt (length_left_lt_fuel sound))
  exact ⟨fuel, by rw [execute, enough]⟩

theorem ended_of_execute (sound : ex.Sound) {stats : Stats}
    (h : (ex.execute state store).result = .ok stats) :
    (ex.execute state store).executor.cursor.ended = true :=
  ended_of_rounds sound (length_left_lt_fuel sound) h

end Executor

end GraphBatch
