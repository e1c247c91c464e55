import GraphBatch.Cli.Exit
import GraphBatch.Proofs.Items.Reading
import GraphBatch.Proofs.Simulation.Execution

/-!
# The command that simulates

The command reads its settings, the items and the rejected value, and what it prints is a function of
these (`answer`): the simulation that it runs goes as `Simulation.execute_eq` says, over the executor that
its settings come to (`executor_simulation`), and its report is printed in the lines of
`Simulation.Report.lines` (`printed_toJson`).
-/

namespace GraphBatch

/-! ## The printed report -/

namespace Simulation.Report

/-- The lines of a report. -/
def lines (r : Report) : List String :=
  ["\x7b",
    "  \"batch_size\": " ++ toString r.batchSize ++ ",",
    "  \"committed_statements\": " ++ toString r.committedStatements ++ ",",
    "  \"failed_steps\": " ++ toString (r.stats.totalSteps - r.stats.successfulSteps) ++ ",",
    "  \"stats\": \x7b",
    "    \"batches\": " ++ toString r.stats.batches ++ ",",
    "    \"failed_batches\": " ++ toString r.stats.failedBatches ++ ",",
    "    \"successful_steps\": " ++ toString r.stats.successfulSteps ++ ",",
    "    \"total_steps\": " ++ toString r.stats.totalSteps,
    "  \x7d",
    "\x7d"]

/-- The fields of a report stand in name order. -/
theorem toJson_eq (r : Report) :
    r.toJson = .object
      [("batch_size", .int r.batchSize), ("committed_statements", .int r.committedStatements),
        ("failed_steps", .int r.stats.failedSteps),
        ("stats", .object
          [("batches", .int r.stats.batches), ("failed_batches", .int r.stats.failedBatches),
            ("successful_steps", .int r.stats.successfulSteps), ("total_steps", .int r.stats.totalSteps)])] := by
  have outer : ¬ "stats" < "batch_size" ∧ ¬ "failed_steps" < "batch_size" ∧ "failed_steps" < "stats" ∧
      ¬ "committed_statements" < "batch_size" ∧ "committed_statements" < "failed_steps" := by decide
  have inner : "batches" < "total_steps" ∧ ¬ "successful_steps" < "batches" ∧
      "successful_steps" < "total_steps" ∧ ¬ "failed_batches" < "batches" ∧
      "failed_batches" < "successful_steps" := by decide
  simp only [toJson, Json.ofPairs, Fields.ofPairs, List.foldl_cons, List.foldl_nil, Fields.insert, Stats.fields,
    outer, inner, String.reduceEq, if_true, if_false]

end Simulation.Report

/-- A line whose first texts are known starts as they do, whatever follows on it. -/
theorem Json.margin_append (depth : Nat) (first start : String) (written : margin depth ++ first = "\n" ++ start)
    (rest : String) : margin depth ++ (first ++ rest) = "\n" ++ (start ++ rest) := by
  rw [← String.append_assoc, written, String.append_assoc]

namespace Cli

/-- A report is printed in its lines. -/
theorem printed_toJson (r : Simulation.Report) : printed r.toJson = "\n".intercalate r.lines ++ "\n" := by
  have field (depth : Nat) (name : String) := Json.margin_append depth (Json.quoted name ++ ": ")
  have closing := Json.margin_append 1 "\x7d" "  \x7d" rfl
  have number (n : Nat) : Json.compact (.int n) = toString n := rfl
  have opening : "  \"stats\": \x7b" = "  \"stats\": " ++ "\x7b" := rfl
  have last : Json.margin 0 = "\n" := rfl
  rw [r.toJson_eq, printed, Json.pretty, Json.prettyAt, Simulation.Report.lines, opening]
  -- Both sides are brought to one series of texts: the fields line by line, and then without parentheses.
  simp only [Json.prettyFields, Json.prettyAt, Json.block_cons, List.map_cons, List.map_nil,
    String.intercalate_cons_cons, String.intercalate_singleton, Nat.zero_add, Nat.reduceAdd, number,
    field 1 "batch_size" "  \"batch_size\": " rfl,
    field 1 "committed_statements" "  \"committed_statements\": " rfl,
    field 1 "failed_steps" "  \"failed_steps\": " rfl, field 1 "stats" "  \"stats\": " rfl,
    field 2 "batches" "    \"batches\": " rfl, field 2 "failed_batches" "    \"failed_batches\": " rfl,
    field 2 "successful_steps" "    \"successful_steps\": " rfl,
    field 2 "total_steps" "    \"total_steps\": " rfl]
  simp only [String.append_assoc, closing, last, Stats.failedSteps]

/-- What the command prints or fails with once everything is read. -/
def answer (size : Nat) (rejected : Option Json) (items : List Json) : Except RunFault String :=
  if size = 0 then .error (.failed (.validation "batch size must be at least 1"))
  else .ok ("\n".intercalate (Simulation.summary size rejected items).lines ++ "\n")

namespace Simulate

variable (options : Simulate) (config : ExecutorConfig) (items : List Json) (rejected : Option Json)

/-- The size of the batches: the option goes before the configuration. -/
def size : Nat :=
  options.batchSize.getD config.batchSize

theorem executor_simulation : (options.simulation config items rejected).executor =
    ({ work := Simulation.work rejected
       config := { config with batchSize := options.size config } } : Builder Unit Json).input
      (.ofList items) := by
  cases options with
  | mk input batchSize failOn => cases batchSize <;> rfl

theorem execution_of_size_eq_zero (zero : options.size config = 0) :
    (options.simulation config items rejected).execution =
      .error (.validation "batch size must be at least 1") := by
  rw [Simulation.execution, executor_simulation, Builder.input, if_pos zero]
  rfl

/-- With batches of some size the simulation is executed, and leaves the statements of the items that are
kept. -/
theorem execution_of_size_pos (pos : 0 < options.size config) :
    ∃ execution, (options.simulation config items rejected).execution = .ok execution ∧
      execution.store.journal = Simulation.written (options.size config) rejected items ∧
      Simulation.reportOf execution = .ok (Simulation.summary (options.size config) rejected items) := by
  obtain ⟨ex, built⟩ : ∃ ex, (options.simulation config items rejected).executor = .ok ex := by
    rw [executor_simulation, Builder.input, if_neg (Nat.ne_of_gt pos)]
    exact ⟨_, rfl⟩
  have input := built
  rw [executor_simulation] at input
  obtain ⟨-, left, fresh⟩ := Executor.sound_of_input input
  have size : ex.batchSize = options.size config := by
    rw [Builder.input, if_neg (Nat.ne_of_gt pos)] at input
    cases input
    rfl
  rw [Sequence.toList_ofList] at left
  obtain ⟨journal, report⟩ :=
    Simulation.execute_eq (.built input) (Executor.work_of_input input) fresh left
  rw [size] at journal report
  refine ⟨ex.execute () ({} : Store), ?_, journal, report⟩
  rw [Simulation.execution, built]
  rfl

/-- What the command makes of its simulation. -/
theorem result_simulation :
    (match (options.simulation config items rejected).run.1 with
      | .error cause => .error (.failed cause)
      | .ok report => .ok (printed report.toJson) : Except RunFault String) =
      answer (options.size config) rejected items := by
  unfold Simulation.run answer
  rcases Nat.eq_zero_or_pos (options.size config) with zero | pos
  · rw [execution_of_size_eq_zero options config items rejected zero, if_pos zero]
  · obtain ⟨execution, executed, -, report⟩ :=
      execution_of_size_pos options config items rejected pos
    rw [executed, if_neg (Nat.ne_of_gt pos)]
    simp only [report, printed_toJson]

variable {m : Type → Type} [Monad m] [LawfulMonad m]

theorem result_run (host : Host m) :
    Outcome.result <$> options.run host config = do
      match ← readItems host options.input with
      | .error fault => return .error fault
      | .ok items => return (readRejected options.failOn).bind (answer (options.size config) · items) := by
  unfold Simulate.run
  rw [map_bind]
  refine bind_congr fun read => ?_
  cases read with
  | error fault => exact map_pure ..
  | ok items =>
    cases readRejected options.failOn with
    | error fault => exact map_pure ..
    | ok rejected =>
      simp only [map_pure]
      refine congrArg pure ?_
      exact result_simulation options config items rejected

end Simulate

/-- **The command that simulates, from end to end.** Whatever machine it runs on, it prints nothing but
the report on the items that it reads, in batches of the size asked for, and fails without one if that is
zero. The report counts the chunks of the input: those that hold a rejected item fail as a whole, and the
others are written, by one statement for each item in order of the input. -/
theorem simulate_end_to_end {m : Type → Type} [Monad m] [LawfulMonad m] (host : Host m)
    (options : Simulate) :
    (Outcome.result <$> (Command.simulate options).run host = do
      match ← Config.load host Config.projectFile with
      | .error error => return .error (.config error)
      | .ok loaded =>
        match ← readItems host options.input with
        | .error fault => return .error fault
        | .ok items =>
          return (readRejected options.failOn).bind fun rejected =>
            answer (options.batchSize.getD loaded.executor.batchSize) rejected items) ∧
      (∀ (config : ExecutorConfig) (items : List Json) (rejected : Option Json),
        let size := options.batchSize.getD config.batchSize
        let successful := (Simulation.kept size rejected items).length
        0 < size → ∃ execution, (options.simulation config items rejected).execution = .ok execution ∧
          execution.store.journal = Simulation.written size rejected items ∧
          Simulation.reportOf execution = .ok
            { batchSize := size
              stats :=
                { totalSteps := items.length
                  batches := items.length ⌈/⌉ size
                  successfulSteps := successful
                  failedBatches := (chunks size items).countP (Simulation.dooms rejected) }
              committedStatements := successful }) ∧
      ∀ (outcome : Outcome) (level : String) (size : Nat) (rejected : Option Json) (items : List Json),
        outcome.result = answer size rejected items →
          ((outcome.exit level).code, (outcome.exit level).output) =
            if size = 0 then (1, "")
            else (0, "\n".intercalate (Simulation.summary size rejected items).lines ++ "\n") := by
  refine ⟨?_, ?_, ?_⟩
  · unfold Command.run
    rw [map_bind]
    refine bind_congr fun loaded => ?_
    cases loaded with
    | error error => exact map_pure ..
    | ok loaded => exact options.result_run loaded.executor host
  · intro config items rejected size successful pos
    exact options.execution_of_size_pos config items rejected pos
  · intro outcome level size rejected items result
    unfold Outcome.exit
    rw [result, answer]
    by_cases zero : size = 0
    · rw [if_pos zero, if_pos zero]
    · rw [if_neg zero, if_neg zero]

/-- A machine on which nothing can be read but the items, the numbers from 1 to 3. -/
def threeItems : Host Id :=
  { vars := []
    directory := "/"
    read := fun path =>
      if path = "in.jsonl" then .ok "1\n2\n3\n".toUTF8 else .error .missing }

theorem splitOn_root : "/".splitOn "/" = ["", ""] := by
  rw [String.splitOn, if_neg (by decide), String.splitOnAux, if_neg (by decide), if_pos (by decide)]
  show (if String.Pos.Raw.atEnd "/" (String.Pos.Raw.next "/" 0) = true then _ else _) = _
  rw [if_pos (by decide), String.splitOnAux, if_pos (by decide)]
  rfl

theorem load_threeItems : Config.load threeItems Config.projectFile = pure (.ok {}) := by
  have candidates : Config.candidates threeItems Config.projectFile = ["/graphtx.toml"] := by
    show (if Path.isAbsolute "graphtx.toml" then _
      else (Path.ancestors "/").map (Path.join · "graphtx.toml")) = _
    rw [Path.ancestors, splitOn_root]
    decide
  have project : Config.firstFile threeItems ["/graphtx.toml"] = pure (.ok (.table .defaults [])) := rfl
  rw [Config.load, candidates, project]
  rfl

theorem readItems_threeItems :
    readItems threeItems "in.jsonl" = pure (.ok [.int 1, .int 2, .int 3]) := by
  have read : Items.read (fun line => Json.parse (String.ofList line)) "1\n2\n3\n".toList =
      .ok [.int 1, .int 2, .int 3] := by
    with_unfolding_all rfl
  rw [Items.readItems_of_read rfl, read]
  rfl

/-- In batches of two the rejected 2 takes the 1 with it, and the 3 is written in the second batch. -/
theorem simulate_end_to_end_three :
    let options : Simulate := { input := "in.jsonl", batchSize := some 2, failOn := some "2" }
    let items : List Json := [.int 1, .int 2, .int 3]
    ((Command.simulate options).run threeItems).run.result = .ok
        ("\x7b\n  \"batch_size\": 2,\n  \"committed_statements\": 1,\n  \"failed_steps\": 2,\n" ++
          "  \"stats\": \x7b\n    \"batches\": 2,\n    \"failed_batches\": 1,\n" ++
          "    \"successful_steps\": 1,\n    \"total_steps\": 3\n  \x7d\n\x7d\n") ∧
      ∃ execution, (options.simulation {} items (some (.int 2))).execution = .ok execution ∧
        execution.store.journal =
          [{ text := "CREATE (n:Item \x7bpayload: $payload, batch: $batch, step: $step\x7d)"
             params := [("batch", .int 2), ("payload", .int 3), ("step", .int 1)] }] ∧
        Simulation.reportOf execution = .ok ⟨2, ⟨3, 2, 1, 1⟩, 1⟩ := by
  intro options items
  obtain ⟨run, executed, -⟩ := simulate_end_to_end threeItems options
  have rejected : readRejected options.failOn = .ok (some (.int 2)) := by with_unfolding_all rfl
  obtain ⟨execution, ok, journal, report⟩ := executed {} items (some (.int 2)) (by decide)
  have written : Simulation.written 2 (some (.int 2)) items = [Simulation.creation (.int 3) 2 1] := by
    with_unfolding_all rfl
  have summary : Simulation.summary 2 (some (.int 2)) items = ⟨2, ⟨3, 2, 1, 1⟩, 1⟩ := by
    with_unfolding_all rfl
  refine ⟨run.trans ?_, execution, ok, journal.trans written, report.trans (congrArg _ summary)⟩
  rw [load_threeItems, pure_bind, rejected]
  show (readItems threeItems "in.jsonl" >>= _) = _
  rw [readItems_threeItems, pure_bind]
  show pure (answer 2 (some (.int 2)) items) = _
  rw [answer, if_neg (by decide), summary]
  rfl

end Cli

end GraphBatch
