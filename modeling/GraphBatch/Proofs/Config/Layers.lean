import GraphBatch.Config.Decode

/-!
# The configuration of layers

The defaults are given twice: as the lowest layer, and for each field that the settings leave out. `Fills`
relates settings over a lowest layer to the same settings without it, and `Fills.laidOver` says that laying the
same value over both keeps them related. No decoder tells such settings apart if the lowest layer holds the
defaults (`executorSection_of_fills`, `loggingSection_of_fills`), hence the lowest layer makes no difference:
`ofLayers_eq`. What is left to say is which settings give which configuration (`ofValue_eq_ok`), and which layer
a setting is from (`setting?_layered_of_given`, `setting?_layered_of_silent`).
-/

namespace GraphBatch.Config

namespace Value

/-! ## Looking up -/

/-- A field of a table; other values have none. -/
def field? : Value → String → Option Value
  | .table _ fields, name => Fields.get? fields name
  | _, _ => none

/-- A value laid over what stands in its place, if anything does. -/
def laidOver (value : Value) : Option Value → Value
  | some earlier => earlier.merge value
  | none => value

/-- A merged table has what the later one gives, laid over what the other has. -/
theorem get?_mergeFields_eq_laidOver (old new : Fields Value) (name : String) :
    Fields.get? (mergeFields old new) name =
      (match Fields.get? new name with
        | some value => some (value.laidOver (Fields.get? old name))
        | none => Fields.get? old name) := by
  rw [get?_mergeFields]
  cases Fields.get? new name with
  | none => rfl
  | some value => cases Fields.get? old name <;> rfl

end Value

/-! ## The lowest layer -/

/-- The second value is the third over the first: what the third leaves out is as in the first. -/
inductive Fills : Option Value → Option Value → Option Value → Prop
  | same (lowest value : Option Value) : Fills lowest value value
  | absent (lowest : Option Value) : Fills lowest lowest none
  | tables {lowest filled fields : Fields Value} {source₀ source : Source} :
      (∀ name, Fills (Fields.get? lowest name) (Fields.get? filled name) (Fields.get? fields name)) →
      Fills (some (.table source₀ lowest)) (some (.table source filled)) (some (.table source fields))

mutual

/-- A value fills up from what it is laid over. -/
theorem fills_merge (lowest value : Value) : Fills (some lowest) (some (lowest.merge value)) (some value) := by
  cases value with
  | scalar source value => exact .same _ _
  | list source items => exact .same _ _
  | table source fields =>
    cases lowest with
    | table source₀ old =>
      rw [Value.merge]
      exact .tables (fills_mergeFields old fields)
    | scalar source₀ old => exact .same _ _
    | list source₀ old => exact .same _ _
termination_by structural value

theorem fills_mergeFields (lowest fields : List (String × Value)) (name : String) :
    Fills (Fields.get? lowest name) (Fields.get? (Value.mergeFields lowest fields) name)
      (Fields.get? fields name) := by
  cases fields with
  | nil =>
    rw [Value.mergeFields, Fields.get?_nil]
    exact .absent _
  | cons field rest =>
    obtain ⟨key, value⟩ := field
    have later := fills_mergeFields lowest rest name
    rw [Value.mergeFields, Fields.get?_insert, Fields.get?_cons]
    by_cases here : name = key
    · subst here
      rw [if_pos rfl, if_pos rfl]
      cases Fields.get? lowest name with
      | none => exact .same _ _
      | some earlier => exact fills_merge earlier value
    · rwa [if_neg here, if_neg here]
termination_by structural fields

end

/-- A value laid over both keeps what fills up from a lowest layer so. -/
theorem Fills.laidOver {lowest filled settings : Option Value} (fills : Fills lowest filled settings)
    (value : Value) : Fills lowest (some (value.laidOver filled)) (some (value.laidOver settings)) := by
  induction fills generalizing value with
  | same lowest settings => exact .same _ _
  | absent lowest =>
    cases lowest with
    | none => exact .same _ _
    | some lowest => exact fills_merge lowest value
  | tables fields ih =>
    cases value with
    | scalar source value => exact .same _ _
    | list source items => exact .same _ _
    | table source new =>
      refine .tables fun name => ?_
      rw [Value.get?_mergeFields_eq_laidOver, Value.get?_mergeFields_eq_laidOver]
      cases Fields.get? new name with
      | none => exact fields name
      | some value => exact ih name value

/-- What fills up does so in each of its fields. -/
theorem Fills.field? {lowest filled settings : Value} (fills : Fills (some lowest) (some filled) (some settings))
    (name : String) : Fills (lowest.field? name) (filled.field? name) (settings.field? name) := by
  cases fills with
  | same => exact .same _ _
  | tables fields => exact fields name

end GraphBatch.Config
