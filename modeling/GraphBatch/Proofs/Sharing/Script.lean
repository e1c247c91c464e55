import GraphBatch.Proofs.Sharing.Operation
import GraphBatch.Proofs.Sharing.Task

/-!
# Tasks against a script

What a task asks of a client depends on the replies so far and on nothing else. So a task can be run against
a script, a client that gives the replies of a list of operations in turn and writes down what it is really
asked: the task has made the operations of a list if it makes just these when their replies are given to it
(`Task.Makes`). It has one transaction open at most then (`Task.Makes.opens_le`), and none once it is
finished (`Task.Finishes.opens_eq`).
-/

namespace GraphBatch

/-- A client that follows a script: the operations of which the replies are still to be given, and those that
were really made. It is stuck when it is asked something that the script has no reply to. -/
structure Script where
  replies : List Operation
  made : List Operation := []
  stuck : Bool := false

namespace Script

def halt (s : Script) : Script := { s with stuck := true }

/-- The script after it has given its next reply, to the operation `x`. -/
def note (s : Script) (x : Operation) (rest : List Operation) : Script :=
  { s with replies := rest, made := s.made ++ [x] }

/-- Gives the next reply, if `read` finds one in the next operation of the script, and notes the operation
that was really made; gives `otherwise` if there is none. -/
def take {α : Type} (s : Script) (read : Operation → Option (α × Operation)) (otherwise : α) : α × Script :=
  match s.stuck, s.replies with
  | false, next :: rest =>
    match read next with
    | some (reply, x) => (reply, s.note x rest)
    | none => (otherwise, s.halt)
  | _, _ => (otherwise, s.halt)

/-- A reply is given to an operation that is noted, or the script is stuck. -/
theorem take_cases {α : Type} (s : Script) (read : Operation → Option (α × Operation)) (otherwise : α) :
    (∃ next rest reply x, s.stuck = false ∧ s.replies = next :: rest ∧ read next = some (reply, x) ∧
      s.take read otherwise = (reply, s.note x rest)) ∨
    s.take read otherwise = (otherwise, s.halt) := by
  unfold take
  split
  · rename_i next rest free replies
    split
    · rename_i reply x found
      exact .inl ⟨next, rest, reply, x, free, replies, found, rfl⟩
    · exact .inr rfl
  · exact .inr rfl

def readBegin : Operation → Option (Except Failure Transaction × Operation)
  | .begin reply => some (reply, .begin reply)
  | _ => none

def readInside (t : Transaction) (st : Statement) :
    Operation → Option ((Except Failure (List Row) × Transaction) × Operation)
  | .inside _ _ reply t' => some ((reply, t'), .inside t st reply t')
  | _ => none

def readOutside (st : Statement) : Operation → Option (Except Failure (List Row) × Operation)
  | .outside _ reply => some (reply, .outside st reply)
  | _ => none

def readCommit (t : Transaction) : Operation → Option (Except Failure Unit × Operation)
  | .commit _ reply => some (reply, .commit t reply)
  | _ => none

def readRollback (t : Transaction) : Operation → Option (Except Failure Unit × Operation)
  | .rollback _ reply => some (reply, .rollback t reply)
  | _ => none

def readSet (sw : Store.Switch) : Operation → Option (Unit × Operation)
  | .set _ => some ((), .set sw)
  | _ => none

instance client : Client Script Transaction where
  begin s := s.take readBegin (.error .endOfSequence)
  inside t s st :=
    let taken := s.take (readInside t st) (.error .endOfSequence, t)
    (taken.1.1, taken.1.2, taken.2)
  outside s st := s.take (readOutside st) (.error .endOfSequence)
  commit t s := s.take (readCommit t) (.error .endOfSequence)
  rollback t s := s.take (readRollback t) (.error .endOfSequence)
  set s sw := (s.take (readSet sw) ()).2

/-! ## Open transactions -/

/-- There are as many beginnings among the operations as ends, or one more, up to each of them. -/
def InTurn (xs : List Operation) : Prop :=
  ∀ past, past <+: xs → past.countP Operation.closes ≤ past.countP Operation.opens ∧
    past.countP Operation.opens ≤ past.countP Operation.closes + 1

/-- One transaction is open at a time, and where the script is not stuck there are `n` of them now. -/
structure Holds (n : Nat) (s : Script) : Prop where
  inTurn : InTurn s.made
  now : s.stuck = false → s.made.countP Operation.opens = s.made.countP Operation.closes + n

theorem Holds.halt {n m : Nat} {s : Script} (h : s.Holds n) : s.halt.Holds m :=
  ⟨h.inTurn, fun free => nomatch free⟩

theorem Holds.note {n m : Nat} {s : Script} (h : s.Holds n) (free : s.stuck = false) {x : Operation}
    {rest : List Operation} (le : m ≤ 1)
    (change : [x].countP Operation.opens + n = [x].countP Operation.closes + m) :
    (s.note x rest).Holds m := by
  have now := h.now free
  have after : (s.made ++ [x]).countP Operation.opens = (s.made ++ [x]).countP Operation.closes + m := by
    rw [List.countP_append, List.countP_append]
    omega
  refine ⟨fun past before => ?_, fun _ => after⟩
  rcases List.prefix_concat_iff.mp before with rfl | earlier
  · omega
  · exact h.inTurn past earlier

/-- What is taken from the script changes the number of open transactions as its operation does. -/
theorem Holds.take {α : Type} {n m : Nat} {s s' : Script} (h : s.Holds n) (le : m ≤ 1)
    {read : Operation → Option (α × Operation)} {otherwise reply : α}
    (taken : s.take read otherwise = (reply, s'))
    (change : ∀ next x, read next = some (reply, x) →
      [x].countP Operation.opens + n = [x].countP Operation.closes + m) : s'.Holds m := by
  rcases s.take_cases read otherwise with ⟨next, rest, reply', x, free, -, found, eq⟩ | eq
  · rw [taken] at eq
    cases eq
    exact h.note free le (change next x found)
  · rw [taken] at eq
    cases eq
    exact h.halt

/-- A script holds one transaction open from its beginning to its commit or rollback. -/
theorem brackets : Client.Brackets (Holds 0) (fun _ : Transaction => Holds 1) where
  begin_ok h began := h.take (Nat.le_refl 1) began fun next x found => by
    cases next <;> cases found
    rfl
  begin_error h refused := h.take (Nat.zero_le 1) refused fun next x found => by
    cases next <;> cases found
    rfl
  inside {t t' s s' st reply} h replied := by
    have taken : s.take (readInside t st) (.error .endOfSequence, t) = ((reply, t'), s') := by
      cases replied
      rfl
    refine h.take (Nat.le_refl 1) taken fun next x found => ?_
    cases next <;> cases found
    rfl
  outside h replied := h.take (Nat.le_refl 1) replied fun next x found => by
    cases next <;> cases found
    rfl
  set {t s} sw h := by
    have taken : s.take (readSet sw) () = ((), Client.set s sw) := rfl
    refine h.take (Nat.le_refl 1) taken fun next x found => ?_
    cases next <;> cases found
    rfl
  commit h replied := h.take (Nat.zero_le 1) replied fun next x found => by
    cases next <;> cases found
    rw [List.countP_singleton, List.countP_singleton, Operation.closes_commit]
    rfl
  rollback h replied := h.take (Nat.zero_le 1) replied fun next x found => by
    cases next <;> cases found
    rfl

end Script

namespace Task

/-- The task makes these operations first, when it is given their replies. -/
def Makes (task : Task) (xs : List Operation) : Prop :=
  ∃ rest, xs <+: (task.on ({ replies := xs ++ rest } : Script)).made

/-- The task is finished with these operations. -/
def Finishes (task : Task) (xs : List Operation) : Prop :=
  task.on ({ replies := xs } : Script) = { replies := [], made := xs }

variable {task : Task} {xs ys : List Operation}

theorem makes_nil (task : Task) : task.Makes [] :=
  ⟨[], List.nil_prefix⟩

/-- What is made comes one after the other. -/
theorem Makes.of_append (h : task.Makes (xs ++ ys)) : task.Makes xs := by
  obtain ⟨rest, made⟩ := h
  rw [List.append_assoc] at made
  exact ⟨ys ++ rest, (List.prefix_append xs ys).trans made⟩

theorem Finishes.makes (h : task.Finishes xs) : task.Makes xs := by
  have made : (task.on ({ replies := xs ++ [] } : Script)).made = xs := by
    rw [List.append_nil, h]
  exact ⟨[], made.symm ▸ List.prefix_rfl⟩

/-- A task follows a script with one transaction open at a time, and leaves none open. -/
theorem holds (task : Task) (xs : List Operation) :
    (task.on ({ replies := xs } : Script)).Holds 0 := by
  refine Script.brackets.task task ⟨fun past before => ?_, fun _ => rfl⟩
  rw [List.prefix_nil.mp before]
  exact ⟨Nat.le_refl 0, Nat.zero_le 1⟩

/-- A task has one transaction open at most. -/
theorem Makes.opens_le (h : task.Makes xs) :
    xs.countP Operation.closes ≤ xs.countP Operation.opens ∧
      xs.countP Operation.opens ≤ xs.countP Operation.closes + 1 := by
  obtain ⟨rest, made⟩ := h
  exact (task.holds (xs ++ rest)).inTurn xs made

/-- A finished task has closed what it has opened. -/
theorem Finishes.opens_eq (h : task.Finishes xs) :
    xs.countP Operation.opens = xs.countP Operation.closes := by
  have holds := task.holds xs
  rw [h] at holds
  exact holds.now rfl

end Task

end GraphBatch
