import Mathlib.Data.List.Basic
import GraphBatch.Cursor

/-!
# Calls of a cursor

What a cursor replies depends on its source and on the number of items drawn so far, and on nothing else: a
call is answered by the source's answer number `k` when `k` items have been drawn, whatever has been looked at
meanwhile. `told` tells the replies in this way, and `At source k c` says that a cursor stands at that number;
every call keeps it (`At.reply`), so that a cursor and `told` agree on every list of calls (`At.replies`). What
the source answers after its first `none` plays no part in either.
-/

namespace GraphBatch

universe u

variable {α : Type u}

namespace Cursor

inductive Call where
  | hasNext
  | tryAdvance
  | next
deriving Repr, DecidableEq

inductive Reply (α : Type u) where
  | hasNext (more : Bool)
  | tryAdvance (item? : Option α)
  | next (result : Except Failure α)

namespace Reply

/-- The item that a reply hands over. -/
def item? : Reply α → Option α
  | hasNext _ => none
  | tryAdvance item? => item?
  | next result => result.toOption

/-- The reply reports the end of the input. -/
def IsEnd : Reply α → Prop
  | hasNext more => more = false
  | tryAdvance item? => item? = none
  | next result => result = .error .endOfSequence

/-- The items that replies hand over, in order of the calls. -/
def drawn (replies : List (Reply α)) : List α :=
  replies.filterMap item?

end Reply

def reply (c : Cursor α) : Call → Reply α × Cursor α
  | .hasNext => (.hasNext c.hasNext.1, c.hasNext.2)
  | .tryAdvance => (.tryAdvance c.tryAdvance.1, c.tryAdvance.2)
  | .next => (.next c.next.1, c.next.2)

/-- The replies to a list of calls, and the cursor after them. -/
def replies (c : Cursor α) : List Call → List (Reply α) × Cursor α
  | [] => ([], c)
  | call :: rest =>
    let (reply, c) := c.reply call
    let (replies, c) := c.replies rest
    (reply :: replies, c)

/-! ## Replies told from the source -/

/-- The reply to a call when the next answer of the source is the given one. -/
def Call.answer : Call → Option α → Reply α
  | hasNext, item? => .hasNext item?.isSome
  | tryAdvance, item? => .tryAdvance item?
  | next, some item => .next (.ok item)
  | next, none => .next (.error .endOfSequence)

/-- The replies to a list of calls when `k` items have been drawn before. -/
def told (source : Nat → Option α) : Nat → List Call → List (Reply α)
  | _, [] => []
  | k, call :: rest =>
    let reply := call.answer (source k)
    reply :: told source (k + reply.item?.toList.length) rest

theorem drawn_cons (reply : Reply α) (replies : List (Reply α)) :
    Reply.drawn (reply :: replies) = reply.item?.toList ++ Reply.drawn replies := by
  rw [Reply.drawn, List.filterMap_cons]
  cases reply.item? <;> rfl

@[simp] theorem isEnd_answer (call : Call) (item? : Option α) :
    (call.answer item?).IsEnd ↔ item? = none := by
  cases call <;> cases item? <;> simp [Call.answer, Reply.IsEnd]

/-- A call hands over the answer of the source or nothing. -/
theorem item?_answer (call : Call) (item? : Option α) :
    (call.answer item?).item? = none ∨ (call.answer item?).item? = item? := by
  cases call with
  | hasNext => exact .inl rfl
  | tryAdvance => exact .inr rfl
  | next =>
    cases item? with
    | none => exact .inl rfl
    | some item => exact .inr rfl

@[simp] theorem item?_answer_none (call : Call) : (call.answer (none : Option α)).item? = none :=
  (item?_answer call none).elim id id

/-- The items handed over are the next ones of the source, each in its place. -/
theorem drawn_told (source : Nat → Option α) (k : Nat) (calls : List Call) :
    (Reply.drawn (told source k calls)).map some =
      (List.range' k (Reply.drawn (told source k calls)).length).map source := by
  induction calls generalizing k with
  | nil => rfl
  | cons call rest ih =>
    have first : (call.answer (source k)).item?.toList.map some =
        (List.range' k (call.answer (source k)).item?.toList.length).map source := by
      rcases item?_answer call (source k) with nothing | handed
      · rw [nothing]
        rfl
      · rw [handed]
        cases answer : source k <;> simp [answer]
    rw [told, drawn_cons, List.map_append, first, ih, List.length_append, ← List.map_append,
      List.range'_append_1]

/-- Once the source has no answer, every reply reports the end and nothing is handed over. -/
theorem told_of_none {source : Nat → Option α} {k : Nat} (spent : source k = none) (calls : List Call) :
    (∀ reply ∈ told source k calls, reply.IsEnd) ∧ Reply.drawn (told source k calls) = [] := by
  induction calls with
  | nil => exact ⟨fun reply mem => absurd mem List.not_mem_nil, rfl⟩
  | cons call rest ih =>
    obtain ⟨ends, nothing⟩ := ih
    rw [told, spent, drawn_cons, item?_answer_none]
    refine ⟨?_, nothing⟩
    intro reply mem
    rcases List.mem_cons.mp mem with rfl | mem
    · exact (isEnd_answer call none).mpr rfl
    · exact ends reply mem

/-- A reply that reports the end is given only where the source has no answer. -/
theorem source_eq_none_of_isEnd {source : Nat → Option α} {k : Nat} {calls : List Call} {reply : Reply α}
    (mem : reply ∈ told source k calls) (ended : reply.IsEnd) :
    source (k + (Reply.drawn (told source k calls)).length) = none := by
  induction calls generalizing k with
  | nil => cases mem
  | cons call rest ih =>
    cases spent : source k with
    | none =>
      rw [(told_of_none spent (call :: rest)).2]
      exact spent
    | some item =>
      rcases List.mem_cons.mp mem with rfl | later
      · rw [isEnd_answer, spent] at ended
        cases ended
      · rw [told, drawn_cons, List.length_append, ← Nat.add_assoc]
        exact ih later

/-! ## Cursors at a number -/

/-- A cursor over the source from which `k` items have been drawn. -/
structure At (source : Nat → Option α) (k : Nat) (c : Cursor α) : Prop where
  source_eq : c.source = source
  /-- No answer before has been the end. -/
  drawn : ∀ i < k, (source i).isSome = true
  /-- The next answer is asked for once, to look at it or to find the end. -/
  asked : c.asked = if c.ahead.isSome || c.ended then k + 1 else k
  ahead : ∀ answer, c.ahead = some answer → answer = source k
  ended : c.ended = true → source k = none
  looked : c.ahead = some none → c.ended = true

namespace At

variable {source : Nat → Option α} {k : Nat} {c : Cursor α}

theorem new (source : Nat → Option α) : At source 0 (ofSource source) where
  source_eq := rfl
  drawn i before := absurd before (Nat.not_lt_zero i)
  asked := rfl
  ahead answer loaded := by cases loaded
  ended found := by cases found
  looked loaded := by cases loaded

/-- Without a loaded answer the source is asked, unless it has ended. -/
theorem ask (h : At source k c) (unloaded : c.ahead = none) :
    c.ask.1 = source k ∧ c.ask.2.source = source ∧ c.ask.2.ahead = none ∧ c.ask.2.asked = k + 1 ∧
      (c.ask.2.ended = true ↔ source k = none) := by
  unfold Cursor.ask
  by_cases ended : c.ended = true
  · have spent := h.ended ended
    have asked := h.asked
    rw [ended, Bool.or_true, if_pos rfl] at asked
    simp [ended, spent, h.source_eq, unloaded, asked]
  · have asked : c.asked = k := by
      have asked := h.asked
      rwa [unloaded, Bool.eq_false_iff.mpr ended] at asked
    rw [if_neg ended, h.source_eq, asked]
    cases answer : source k with
    | none => simp [unloaded]
    | some item => simp [unloaded, ended]

/-- Once an answer has been taken the cursor stands at the next number, or still at the same one if the
answer was the end. -/
theorem taken (h : At source k c) {c' : Cursor α} (same : c'.source = source) (unloaded : c'.ahead = none)
    (asked : c'.asked = k + 1) (ended : c'.ended = true ↔ source k = none) :
    At source (k + (source k).toList.length) c' := by
  cases answer : source k with
  | none =>
    have isOver := ended.mpr answer
    exact
      { source_eq := same
        drawn := h.drawn
        asked := by simp [isOver, asked]
        ahead := by simp [unloaded]
        ended := fun _ => answer
        looked := fun _ => isOver }
  | some item =>
    have going : c'.ended = false := Bool.eq_false_iff.mpr fun isOver => by
      rw [ended, answer] at isOver
      cases isOver
    exact
      { source_eq := same
        drawn := by
          intro i before
          rcases Nat.lt_succ_iff_lt_or_eq.mp before with earlier | rfl
          · exact h.drawn i earlier
          · rw [answer]
            rfl
        asked := by simp [unloaded, going, asked]
        ahead := by simp [unloaded]
        ended := by simp [going]
        looked := by simp [unloaded] }

theorem tryAdvance (h : At source k c) : c.tryAdvance.1 = source k ∧
    At source (k + (source k).toList.length) c.tryAdvance.2 := by
  unfold Cursor.tryAdvance
  cases loaded : c.ahead with
  | none =>
    obtain ⟨answer, same, unloaded, asked, ended⟩ := h.ask loaded
    exact ⟨answer, h.taken same unloaded asked ended⟩
  | some answer =>
    have told := h.ahead answer loaded
    have asked : c.asked = k + 1 := by
      have asked := h.asked
      rwa [loaded] at asked
    exact ⟨told, h.taken h.source_eq rfl asked
      ⟨h.ended, fun spent => h.looked (by rw [loaded, told, spent])⟩⟩

/-- To look at the next item draws nothing. -/
theorem hasNext (h : At source k c) : c.hasNext.1 = (source k).isSome ∧ At source k c.hasNext.2 := by
  unfold Cursor.hasNext
  cases loaded : c.ahead with
  | none =>
    obtain ⟨answer, same, -, asked, ended⟩ := h.ask loaded
    refine ⟨congrArg Option.isSome answer, ?_⟩
    exact
      { source_eq := same
        drawn := h.drawn
        asked := by simp [asked]
        ahead := fun other looked => (Option.some.inj looked).symm.trans answer
        ended := ended.mp
        looked := fun looked => ended.mpr (answer.symm.trans (Option.some.inj looked)) }
  | some answer =>
    rw [← h.ahead answer loaded]
    exact ⟨rfl, h⟩

theorem next (h : At source k c) : c.next.1 = (match source k with
      | some item => .ok item
      | none => .error .endOfSequence) ∧
    c.next.2 = c.tryAdvance.2 := by
  obtain ⟨answer, -⟩ := h.tryAdvance
  unfold Cursor.next
  rcases advanced : c.tryAdvance with ⟨item?, after⟩
  rw [advanced] at answer
  rw [← answer]
  cases item? <;> exact ⟨rfl, rfl⟩

/-- One call. -/
theorem reply (h : At source k c) (call : Call) : (c.reply call).1 = call.answer (source k) ∧
    At source (k + (call.answer (source k)).item?.toList.length) (c.reply call).2 := by
  obtain ⟨answer, advanced⟩ := h.tryAdvance
  cases call with
  | hasNext =>
    obtain ⟨more, after⟩ := h.hasNext
    exact ⟨congrArg Reply.hasNext more, after⟩
  | tryAdvance => exact ⟨congrArg Reply.tryAdvance answer, advanced⟩
  | next =>
    obtain ⟨result, same⟩ := h.next
    change Reply.next c.next.1 = _ ∧ At source _ c.next.2
    rw [result, same]
    cases found : source k <;> rw [found] at advanced <;> exact ⟨rfl, advanced⟩

/-- A list of calls. -/
theorem replies (h : At source k c) (calls : List Call) : (c.replies calls).1 = told source k calls ∧
    At source (k + (Reply.drawn (told source k calls)).length) (c.replies calls).2 := by
  induction calls generalizing k c with
  | nil => exact ⟨rfl, h⟩
  | cons call rest ih =>
    obtain ⟨answer, after⟩ := h.reply call
    obtain ⟨later, final⟩ := ih after
    refine ⟨?_, ?_⟩
    · change (c.reply call).1 :: ((c.reply call).2.replies rest).1 = _
      rw [answer, later]
      rfl
    · rw [told, drawn_cons, List.length_append, ← Nat.add_assoc]
      exact final

/-- The source has been asked for at most one item more than were drawn, and never after it had ended. -/
theorem asked_le (h : At source k c) :
    c.asked ≤ k + 1 ∧ ∀ i, i + 1 < c.asked → (source i).isSome = true := by
  have le : c.asked ≤ k + 1 := by
    rw [h.asked]
    split
    · exact Nat.le_refl _
    · exact Nat.le_succ k
  exact ⟨le, fun i before => h.drawn i (by omega)⟩

end At

/-- **Calls of a cursor.** Over any source and after any calls, the replies are those told from the source. So
the items drawn are the first of the source, before its first `none` and in order; a call of `hasNext` says
whether the next draw gives an item and changes no later reply; `next` fails exactly where `tryAdvance` gives
nothing; after a reply that reports the end all others do; and the source is asked for at most one item more
than were drawn, never again after its first `none`. -/
theorem replies_eq_told (source : Nat → Option α) (calls : List Call) :
    let c := ((ofSource source).replies calls).2
    let replies := ((ofSource source).replies calls).1
    let drawn := Reply.drawn replies
    replies = told source 0 calls ∧
      drawn.map some = (List.range drawn.length).map source ∧
      c.tryAdvance.1 = source drawn.length ∧
      c.hasNext.1 = c.hasNext.2.tryAdvance.1.isSome ∧
      (∀ later, (c.hasNext.2.replies later).1 = (c.replies later).1) ∧
      (∀ item, c.next.1 = .ok item ↔ c.tryAdvance.1 = some item) ∧
      (c.next.1 = .error .endOfSequence ↔ c.tryAdvance.1 = none) ∧
      (∀ reply ∈ replies, reply.IsEnd → ∀ later, ∀ reply' ∈ (c.replies later).1, reply'.IsEnd) ∧
      c.asked ≤ drawn.length + 1 ∧ ∀ i, i + 1 < c.asked → (source i).isSome = true := by
  intro c replies drawn
  obtain ⟨same, here⟩ := (At.new source).replies calls
  change replies = _ at same
  change At source (0 + _) c at here
  have here : At source drawn.length c := by rwa [← same, Nat.zero_add] at here
  obtain ⟨answer, -⟩ := here.tryAdvance
  obtain ⟨more, looked⟩ := here.hasNext
  obtain ⟨result, -⟩ := here.next
  refine ⟨same, ?_, answer, ?_, ?_, ?_, ?_, ?_, here.asked_le⟩
  · have first := drawn_told source 0 calls
    rwa [← same, ← List.range_eq_range'] at first
  · rw [more, looked.tryAdvance.1]
  · intro later
    rw [(looked.replies later).1, (here.replies later).1]
  · intro item
    rw [result, answer]
    cases source drawn.length <;> simp
  · rw [result, answer]
    cases source drawn.length <;> simp
  · intro reply mem ended later
    have spent : source drawn.length = none := by
      have spent := source_eq_none_of_isEnd (same ▸ mem) ended
      rwa [← same, Nat.zero_add] at spent
    rw [(here.replies later).1]
    exact (told_of_none spent later).1

-- A source that goes on after its first `none`: the cursor does not.
example :
    let flaky : Nat → Option Nat := fun i => if i = 1 then none else some i
    let replies := ((ofSource flaky).replies [.hasNext, .tryAdvance, .hasNext, .tryAdvance, .tryAdvance]).1
    replies.map Reply.item? = [none, some 0, none, none, none] := by
  decide

end Cursor

end GraphBatch
