import GraphBatch.Program

/-!
# Parameters of a query

A query remembers of its parameters the first one that has no JSON form, and of those that have one the last
value under each name. The one is looked at before the target is: a query with such a parameter is refused in
the same way however it is run (`Query.Refuses`), and any other sends one statement (`Query.Sends`).
-/

namespace GraphBatch

namespace Program

variable {α β γ : Type}

theorem bind_done (p : Program α) : p.bind done = p := by
  induction p with
  | done value => rfl
  | inside st next ih => exact congrArg (inside st) (funext ih)
  | outside st next ih => exact congrArg (outside st) (funext ih)
  | switch sw next ih => exact congrArg (switch sw) ih

theorem bind_bind (p : Program α) (f : α → Program β) (g : β → Program γ) :
    (p.bind f).bind g = p.bind fun a => (f a).bind g := by
  induction p with
  | done value => rfl
  | inside st next ih => exact congrArg (inside st) (funext ih)
  | outside st next ih => exact congrArg (outside st) (funext ih)
  | switch sw next ih => exact congrArg (switch sw) ih

/-- So a target inside a program is as good as any other. -/
instance : LawfulMonad Program := LawfulMonad.mk' Program bind_done (fun _ _ => rfl) bind_bind

end Program

namespace Query

/-! ## What a query remembers -/

theorem withParams_append (q : Query) (params later : List (String × Except String Json)) :
    q.withParams (params ++ later) = (q.withParams params).withParams later :=
  List.foldl_append

@[simp] theorem text_withParams (q : Query) (params : List (String × Except String Json)) :
    (q.withParams params).text = q.text := by
  induction params generalizing q with
  | nil => rfl
  | cons p rest ih =>
    obtain ⟨name, value⟩ := p
    cases value <;> exact ih _

/-- The first failure is never forgotten, whatever is set after it. -/
theorem invalid_withParams_of_some {q : Query} {failed : String × String} (h : q.invalid = some failed)
    (params : List (String × Except String Json)) : (q.withParams params).invalid = some failed := by
  induction params generalizing q with
  | nil => exact h
  | cons p rest ih =>
    obtain ⟨name, value⟩ := p
    cases value with
    | ok json => exact ih h
    | error reason =>
      apply ih
      show q.invalid.or (some (name, reason)) = some failed
      rw [h, Option.some_or]

theorem invalid_withParams_of_ok (q : Query) {params : List (String × Except String Json)}
    (ok : ∀ p ∈ params, ∃ json, p.2 = .ok json) : (q.withParams params).invalid = q.invalid := by
  induction params generalizing q with
  | nil => rfl
  | cons p rest ih =>
    obtain ⟨name, value⟩ := p
    obtain ⟨⟨json, rfl⟩, others⟩ := List.forall_mem_cons.mp ok
    exact ih _ others

theorem invalid_withParams_of_first {q : Query} (valid : q.invalid = none)
    {before : List (String × Except String Json)} (ok : ∀ p ∈ before, ∃ json, p.2 = .ok json)
    (name reason : String) (after : List (String × Except String Json)) :
    (q.withParams (before ++ (name, .error reason) :: after)).invalid = some (name, reason) := by
  have first : ((q.withParams before).param name (.error reason)).invalid = some (name, reason) := by
    show (q.withParams before).invalid.or (some (name, reason)) = some (name, reason)
    rw [invalid_withParams_of_ok q ok, valid, Option.none_or]
  rw [withParams_append]
  exact invalid_withParams_of_some first after

/-- Under each name the last value is kept. -/
theorem get?_withParams (q : Query) {params : List (String × Except String Json)}
    (ok : ∀ p ∈ params, ∃ json, p.2 = .ok json) (name : String) :
    ((q.withParams params).params.get? name).map Except.ok =
      (params.reverse.lookup name).or ((q.params.get? name).map Except.ok) := by
  induction params generalizing q with
  | nil => rfl
  | cons p rest ih =>
    obtain ⟨other, value⟩ := p
    obtain ⟨⟨json, rfl⟩, others⟩ := List.forall_mem_cons.mp ok
    have later : (q.withParams ((other, .ok json) :: rest)).params =
        ((q.param other (.ok json)).withParams rest).params := rfl
    rw [later, ih _ others, List.reverse_cons, List.lookup_append, Option.or_assoc]
    by_cases same : name = other
    · simp [param, same]
    · simp [param, same, List.lookup_cons, beq_eq_false_iff_ne.mpr same]

/-! ## Running a query -/

variable {m : Type → Type} [Monad m]

/-- However the query is run, it fails without anything being sent to the target. -/
structure Refuses (q : Query) (target : Target m) (e : Failure) : Prop where
  run : q.run target = pure (.error e)
  execute : q.execute target = pure (.error e)
  fetchAll : q.fetchAll target = pure (.error e)
  fetchOne : q.fetchOne target = pure (.error e)

/-- However the query is run, the statement is sent to the target once, and nothing else is. -/
structure Sends (q : Query) (target : Target m) (st : Statement) : Prop where
  run : q.run target = target.run st
  execute : q.execute target = target.execute st
  fetchAll : q.fetchAll target = target.execute st
  fetchOne : q.fetchOne target = (·.map List.head?) <$> target.execute st

theorem refuses_of_statement [LawfulMonad m] {q : Query} {e : Failure} (failed : q.statement = .error e)
    (target : Target m) : q.Refuses target e := by
  have execute : q.execute target = pure (.error e) := by
    rw [Query.execute, failed]
  refine ⟨?_, execute, execute, ?_⟩
  · rw [Query.run, failed]
  · rw [Query.fetchOne, execute, map_pure]
    rfl

theorem sends_of_statement {q : Query} {st : Statement} (ok : q.statement = .ok st) (target : Target m) :
    q.Sends target st := by
  have execute : q.execute target = target.execute st := by
    rw [Query.execute, ok]
  refine ⟨?_, execute, execute, ?_⟩
  · rw [Query.run, ok]
  · rw [Query.fetchOne, execute]

/-- **Parameters.** A query of which some parameter has no JSON form fails with the first such parameter and its
reason, whatever was set before and after it; nothing is sent to the target, so that a server is left as it
was, whichever of its targets was meant and in whatever state it is. Any other query sends one statement, which
has the text of the query and under each name the value that was set last. -/
theorem refuses_or_sends [LawfulMonad m] (text : String) (params : List (String × Except String Json)) :
    let q := (new text).withParams params
    (∀ before name reason after, params = before ++ (name, .error reason) :: after →
      (∀ p ∈ before, ∃ json, p.2 = .ok json) →
      let e : Failure := .validation ("parameter '" ++ name ++ "' cannot be serialized: " ++ reason)
      (∀ target : Target m, q.Refuses target e) ∧
        ∀ (on : Option String) (server : Server),
          q.run (Server.target on) server = (.error e, server) ∧
          q.execute (Server.target on) server = (.error e, server) ∧
          q.fetchAll (Server.target on) server = (.error e, server) ∧
          q.fetchOne (Server.target on) server = (.error e, server)) ∧
      ((∀ p ∈ params, ∃ json, p.2 = .ok json) →
        ∃ st : Statement, st.text = text ∧
          (∀ name, (st.params.get? name).map Except.ok = params.reverse.lookup name) ∧
          ∀ target : Target m, q.Sends target st) := by
  intro q
  constructor
  · intro before name reason after split ok e
    have invalid : q.invalid = some (name, reason) := by
      show ((new text).withParams params).invalid = _
      rw [split]
      exact invalid_withParams_of_first rfl ok name reason after
    have failed : q.statement = .error e := by
      rw [statement, invalid]
      rfl
    refine ⟨refuses_of_statement failed, ?_⟩
    intro on server
    obtain ⟨run, execute, fetchAll, fetchOne⟩ := refuses_of_statement failed (Server.target on)
    rw [run, execute, fetchAll, fetchOne]
    exact ⟨rfl, rfl, rfl, rfl⟩
  · intro ok
    have valid : q.invalid = none := invalid_withParams_of_ok (new text) ok
    refine ⟨{ text := q.text, params := q.params }, text_withParams (new text) params, ?_, ?_⟩
    · intro name
      have last := get?_withParams (new text) ok name
      rwa [show (new text).params.get? name = none from rfl, Option.map_none, Option.or_none] at last
    · apply sends_of_statement
      rw [statement, valid]

/-- The second parameter is refused, although it is set again and the store is offline; without it a statement
is sent with the value that was set last. -/
theorem refuses_or_sends_repeated :
    let refused := (new "RETURN $b").withParams
      [("a", .ok (.int 1)), ("b", .error "key must be a string"), ("b", .ok (.int 2)), ("c", .error "late")]
    let sent := (new "RETURN $b").withParams [("b", .ok (.int 1)), ("b", .ok (.int 2))]
    let server : Server := { store := { offline := true, faults := 1 } }
    let e : Failure := .validation "parameter 'b' cannot be serialized: key must be a string"
    refused.fetchOne Program.transaction = .done (.error e) ∧
      refused.run (Server.target none) server = (.error e, server) ∧
      ∃ st : Statement, st.text = "RETURN $b" ∧ st.params.get? "b" = some (.int 2) ∧
        sent.run Program.transaction = Program.transaction.run st := by
  intro refused sent server e
  obtain ⟨refuses, -⟩ := refuses_or_sends (m := Program) "RETURN $b"
    [("a", .ok (.int 1)), ("b", .error "key must be a string"), ("b", .ok (.int 2)), ("c", .error "late")]
  obtain ⟨refuses, untouched⟩ := refuses [("a", .ok (.int 1))] "b" "key must be a string" _ rfl (by simp)
  obtain ⟨-, sends⟩ := refuses_or_sends (m := Program) "RETURN $b" [("b", .ok (.int 1)), ("b", .ok (.int 2))]
  obtain ⟨st, text, values, sends⟩ := sends (by simp)
  refine ⟨(refuses Program.transaction).fetchOne, (untouched none server).1, st, text, ?_, ?_⟩
  · have last : (st.params.get? "b").map Except.ok = some (Except.ok (.int 2) : Except String Json) := values "b"
    obtain ⟨json, found, value⟩ := Option.map_eq_some_iff.mp last
    rw [found, Except.ok.inj value]
  · exact (sends Program.transaction).run

end Query

end GraphBatch
