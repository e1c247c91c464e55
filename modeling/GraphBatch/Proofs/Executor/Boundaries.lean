import GraphBatch.Proofs.Executor.Delivery
import GraphBatch.Proofs.Executor.Positions

/-!
# The boundaries of batches

Were all batches full, batch `k` would be made up of the items `(k - 1) * size + 1` to `k * size` of the
input. An ordinary failure keeps it so, and so does a client that refuses to begin or to commit. An
infrastructure failure of the unit of work ends its batch at once, and the next execution opens another one:
the places that are left empty then (`Delivery.shortfall`) set all later numbers off against the input
(`place_of_chain`).
-/

namespace GraphBatch

variable {θ ω σ τ : Type} [Client ω θ]

namespace Delivery

/-- The number that the item has in the input if all batches before its own are full. -/
def place (size : Nat) (d : Delivery τ) : Nat :=
  (d.invocation.batch - 1) * size + d.invocation.step

/-- The item numbered `n` in the input is handed over in the batch that it belongs to. -/
def Belongs (size n : Nat) (d : Delivery τ) : Prop :=
  (d.invocation.batch - 1) * size + 1 ≤ n ∧ n ≤ d.invocation.batch * size

/-- The places that stay empty in a batch because an infrastructure failure ends it. -/
def shortfall (size : Nat) (d : Delivery τ) : Nat :=
  match d.result with
  | .ok () => 0
  | .error e => if e.isInfrastructure then size - d.invocation.step else 0

/-- The position is one of those that there are in batches of this size. -/
structure Placed (size : Nat) (d : Delivery τ) : Prop where
  batch : 0 < d.invocation.batch
  first : 0 < d.invocation.step
  last : d.invocation.step ≤ size

variable {size : Nat} {d d' : Delivery τ}

theorem shortfall_of_ordinary (ordinary : ∀ e, d.result = .error e → e.isStore = false) :
    d.shortfall size = 0 := by
  unfold shortfall
  split
  · rfl
  · rename_i e failed
    have infrastructure : e.isInfrastructure = false := (Bool.or_eq_false_iff.mp (ordinary e failed)).1
    rw [infrastructure]
    rfl

/-- Without transient failures a batch that is left before it is full has met an infrastructure failure. -/
theorem Closes.shortfall_eq (closes : d.Closes size)
    (steady : ∀ e, d.result = .error e → e.isTransient = false) :
    d.shortfall size = size - d.invocation.step := by
  unfold shortfall
  rcases closes with full | ⟨e, failed, isStore⟩
  · rw [full, Nat.sub_self]
    split <;> simp
  · have infrastructure : e.isInfrastructure = true := by
      rwa [Failure.isStore, steady e failed, Bool.or_false] at isStore
    simp [failed, infrastructure]

theorem isTransient_of_any (quiet : d.failure?.any Failure.isTransient = false) (e : Failure)
    (failed : d.result = .error e) : e.isTransient = false := by
  rwa [failure?_eq_some.mpr failed] at quiet

/-- The next item has the next place, but for those that stay empty in between. -/
theorem Follows.place_eq (follows : d.Follows size d') (placed : d.Placed size)
    (steady : ∀ e, d.result = .error e → e.isTransient = false) :
    d'.Placed size ∧ d'.place size = d.place size + d.shortfall size + 1 := by
  obtain ⟨batch, first, last⟩ := placed
  cases follows with
  | step lt ordinary position =>
    obtain ⟨batch', step'⟩ := Prod.mk.inj position
    rw [place, place, batch', step', shortfall_of_ordinary ordinary]
    exact ⟨⟨batch' ▸ batch, by omega, by omega⟩, rfl⟩
  | retry failed transient position =>
    rw [steady _ failed] at transient
    cases transient
  | batch closes position =>
    obtain ⟨batch', step'⟩ := Prod.mk.inj position
    refine ⟨⟨by omega, by omega, by omega⟩, ?_⟩
    calc
      d'.place size = d.invocation.batch * size + 1 := by rw [place, batch', step', Nat.add_sub_cancel]
      _ = (d.invocation.batch - 1) * size + size + 1 := by rw [← Nat.succ_mul, Nat.succ_eq_add_one,
        Nat.sub_add_cancel batch]
      _ = d.place size + d.shortfall size + 1 := by
        rw [place, closes.shortfall_eq steady]
        omega

/-! ## Series of items -/

section Series

variable {ds : List (Delivery τ)} (size_pos : 0 < size)
  (head : ∀ d ∈ ds.head?, d.invocation.position = (1, 1)) (chain : ds.IsChain (Follows size))
  (steady : ∀ d ∈ ds, ∀ e, d.result = .error e → e.isTransient = false)
include size_pos head chain steady

/-- An item is set off against the input by the places that have stayed empty before it. -/
theorem place_of_chain (i : Nat) (at_i : ds[i]? = some d) :
    d.Placed size ∧ d.place size = i + 1 + ((ds.take i).map (shortfall size)).sum := by
  induction i generalizing d with
  | zero =>
    rw [← List.head?_eq_getElem?] at at_i
    obtain ⟨batch, step⟩ := Prod.mk.inj (head d at_i)
    exact ⟨⟨by omega, by omega, by omega⟩, by rw [place, batch, step]; simp⟩
  | succ i ih =>
    obtain ⟨lt, rfl⟩ := List.getElem?_eq_some_iff.mp at_i
    obtain ⟨placed, before⟩ := ih (List.getElem?_eq_getElem (Nat.lt_of_succ_lt lt))
    obtain ⟨placed, next⟩ := (List.isChain_iff_getElem.mp chain i lt).place_eq placed
      (steady _ (List.getElem_mem _))
    refine ⟨placed, ?_⟩
    rw [next, before, List.take_succ_eq_append_getElem (Nat.lt_of_succ_lt lt), List.map_append,
      List.sum_append, List.map_singleton, List.sum_singleton]
    omega

/-- It stands in the batch that it belongs to if it is set off by less than its step. -/
theorem belongs_iff_lt (i : Nat) (at_i : ds[i]? = some d) :
    d.Belongs size (i + 1) ↔ ((ds.take i).map (shortfall size)).sum < d.invocation.step := by
  obtain ⟨⟨batch, first, last⟩, eq⟩ := place_of_chain size_pos head chain steady i at_i
  have upper : d.invocation.batch * size = (d.invocation.batch - 1) * size + size := by
    rw [← Nat.succ_mul, Nat.succ_eq_add_one, Nat.sub_add_cancel batch]
  rw [place] at eq
  rw [Belongs, upper]
  omega

/-- So all items do exactly if no batch but the last one is left before it is full. -/
theorem belongs_iff_shortfall :
    (∀ (i : Nat) (d : Delivery τ), ds[i]? = some d → d.Belongs size (i + 1)) ↔
      ∀ d ∈ ds.dropLast, d.shortfall size = 0 := by
  constructor
  · intro belongs d mem
    obtain ⟨i, lt, rfl⟩ := List.mem_iff_getElem.mp mem
    rw [List.length_dropLast] at lt
    have next : i + 1 < ds.length := by omega
    rw [List.getElem_dropLast]
    cases List.isChain_iff_getElem.mp chain i next with
    | step lt ordinary position => exact shortfall_of_ordinary ordinary
    | retry failed transient position =>
      rw [steady _ (List.getElem_mem _) _ failed] at transient
      cases transient
    | batch closes position =>
      -- The next batch starts at its first step, and that cannot be set off at all.
      have later := belongs (i + 1) _ (List.getElem?_eq_getElem next)
      rw [belongs_iff_lt size_pos head chain steady (i + 1) (List.getElem?_eq_getElem next),
        (Prod.mk.inj position).2, List.take_succ_eq_append_getElem (Nat.lt_of_succ_lt next), List.map_append,
        List.sum_append, List.map_singleton, List.sum_singleton] at later
      omega
  · intro full i d at_i
    obtain ⟨⟨-, first, -⟩, -⟩ := place_of_chain size_pos head chain steady i at_i
    have lt := (List.getElem?_eq_some_iff.mp at_i).1
    have none : ((ds.take i).map (shortfall size)).sum = 0 := by
      refine List.sum_eq_zero_iff_forall_eq_nat.mpr fun n mem => ?_
      obtain ⟨d', taken, rfl⟩ := List.mem_map.mp mem
      refine full d' ?_
      rw [List.dropLast_eq_take]
      exact List.take_subset_take_left ds (Nat.le_pred_of_lt lt) taken
    rwa [belongs_iff_lt size_pos head chain steady i at_i, none]

end Series

end Delivery

namespace Executor

/-- **The boundaries of batches.** Item by item the input is handed over, and in a history without transient
failures of the unit of work each position is set off against the input by the places that have stayed empty
in earlier batches. All items are handed over in the batches that they belong to exactly if an infrastructure
failure has left places empty in none of the batches, but for the one of the very last item. -/
theorem belongs_iff_filled {b : Builder σ τ} {items : Sequence τ} {ex : Executor σ τ}
    (built : b.input items = .ok ex) (entries : List (σ × ω))
    (steady : ∀ d ∈ (ex.executions entries).flatMap Execution.deliveries, ∀ e, d.result = .error e →
      e.isTransient = false) :
    let deliveries := (ex.executions entries).flatMap Execution.deliveries
    let size := ex.batchSize
    (∀ (i : Nat) (d : Delivery τ), deliveries[i]? = some d →
        items.toList[i]? = some d.invocation.item ∧ d.Placed size ∧
          d.place size = i + 1 + ((deliveries.take i).map (Delivery.shortfall size)).sum) ∧
      ((∀ (i : Nat) (d : Delivery τ), deliveries[i]? = some d → d.Belongs size (i + 1)) ↔
        ∀ d ∈ deliveries.dropLast, d.shortfall size = 0) := by
  intro deliveries size
  obtain ⟨sound, left, fresh⟩ := sound_of_input built
  have flat : deliveries = ((ex.executions entries).flatMap (·.batches)).flatMap BatchRecord.deliveries :=
    List.flatMap_assoc.symm
  have positions := (followed_executions sound entries).positions
  rw [fresh, ← flat] at positions
  refine ⟨fun i d at_i => ⟨?_, ?_⟩,
    Delivery.belongs_iff_shortfall sound.size positions.head positions.chain steady⟩
  · have delivered : (delivered (ex.executions entries))[i]? = some d.invocation.item := by
      rw [delivered, List.getElem?_map, at_i]
      rfl
    have lt := (List.getElem?_eq_some_iff.mp delivered).1
    rw [← left, ← delivered_append_left sound entries, List.getElem?_append_left lt, delivered]
  · exact Delivery.place_of_chain sound.size positions.head positions.chain steady i at_i

/-- Batches of two items, by a unit of work that loses the connection at one of them. -/
def severed (item : Nat) : Builder Unit Nat :=
  { work := fun invocation _ =>
      .done (if invocation.item = item then .error (.connection "lost") else .ok (), ())
    config := { batchSize := 2 } }

/-- The executor of these batches over three items. -/
def severedOver (item : Nat) : Executor Unit Nat :=
  { work := (severed item).work
    runner := (severed item).runner
    batchSize := 2
    cursor := (Sequence.ofList [1, 2, 3]).cursor
    length := 3 }

theorem input_severed (item : Nat) : (severed item).input (.ofList [1, 2, 3]) = .ok (severedOver item) := rfl

/-- The connection is lost at the last item of a batch, and the boundaries stay where they are. -/
theorem belongs_iff_filled_severed :
    let deliveries := ((severedOver 2).executions [((), ({} : Store)), ((), {})]).flatMap
      Execution.deliveries
    (∀ d ∈ deliveries, ∀ e, d.result = .error e → e.isTransient = false) ∧
      deliveries.map (·.invocation.position) = [(1, 1), (1, 2), (2, 1)] ∧
      ∀ (i : Nat) (d : Delivery Nat), deliveries[i]? = some d → d.Belongs 2 (i + 1) := by
  intro deliveries
  have quiet : ∀ d ∈ deliveries, d.failure?.any Failure.isTransient = false := by decide +kernel
  have steady : ∀ d ∈ deliveries, ∀ e, d.result = .error e → e.isTransient = false :=
    fun d mem => Delivery.isTransient_of_any (quiet d mem)
  obtain ⟨-, belongs_iff⟩ := belongs_iff_filled (input_severed 2) _ steady
  exact ⟨steady, by decide +kernel, belongs_iff.mpr (by decide +kernel)⟩

/-- It is lost at the first item of a batch, and the next execution hands the second item over in another
batch, to which it does not belong. -/
theorem not_belongs_severed :
    let deliveries := ((severedOver 1).executions [((), ({} : Store)), ((), {})]).flatMap
      Execution.deliveries
    (severed 1).input (.ofList [1, 2, 3]) = .ok (severedOver 1) ∧
      (∀ d ∈ deliveries, ∀ e, d.result = .error e → e.isTransient = false) ∧
      deliveries.map (fun d => (d.invocation.position, d.invocation.item)) =
        [((1, 1), 1), ((2, 1), 2), ((2, 2), 3)] ∧
      ¬ ∀ (i : Nat) (d : Delivery Nat), deliveries[i]? = some d → d.Belongs 2 (i + 1) := by
  intro deliveries
  have quiet : ∀ d ∈ deliveries, d.failure?.any Failure.isTransient = false := by decide +kernel
  refine ⟨rfl, fun d mem => Delivery.isTransient_of_any (quiet d mem), by decide +kernel, ?_⟩
  intro belongs
  exact absurd (belongs 1 _ rfl).1 (by decide +kernel)

end Executor

end GraphBatch
