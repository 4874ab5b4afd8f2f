import Concord.Proofs.Rendering.Cutting

/-!
# Filling texts that are put together

Placeholders are filled after the texts of all segments have been put
together.  As long as no text leaves a placeholder open, this is the same as
filling each text by itself, and what goes wrong first in one goes wrong first
in the other.
-/

namespace Concord

variable {arguments : Value}

/-- Pieces are replaced in order, and the first error ends the replacement. -/
theorem piecesText_append (left right : List Piece) :
    piecesText arguments (left ++ right) = (do
      let first ← piecesText arguments left
      let second ← piecesText arguments right
      return first ++ second) := by
  induction left with
  | nil =>
      rw [List.nil_append, piecesText]
      cases piecesText arguments right <;> rfl
  | cons piece rest inductionHypothesis =>
      rw [List.cons_append, piecesText, piecesText, inductionHypothesis]
      simp only [bind_assoc, pure_bind, List.append_assoc]

/-- A text that leaves no placeholder open is filled by itself, whatever follows it. -/
theorem fillPlaceholders_append
    {left : String}
    (closed : ¬ Piece.LeavesOpen left.toList)
    (right : String)
    (arguments : Value) :
    fillPlaceholders (left ++ right) arguments = (do
      let first ← fillPlaceholders left arguments
      let second ← fillPlaceholders right arguments
      return first ++ second) := by
  by_cases given : arguments = .null
  · rw [given]
    rfl
  · rw [fillPlaceholders_of_given given, fillPlaceholders_of_given given,
      fillPlaceholders_of_given given, String.toList_append, Piece.scan_append closed,
      piecesText_append]
    cases piecesText arguments (Piece.scan left.toList) with
    | error error => rfl
    | ok first =>
        cases piecesText arguments (Piece.scan right.toList) with
        | error error => rfl
        | ok second => exact congrArg Except.ok String.ofList_append

/--
Texts that leave no placeholder open are filled together as each is filled by
itself; the first of them that cannot be filled decides about the error.
-/
theorem fillPlaceholders_join
    {texts : List String}
    (closed : ∀ text ∈ texts, ¬ Piece.LeavesOpen text.toList)
    (arguments : Value) :
    fillPlaceholders (String.join texts) arguments =
      (texts.mapM fun text => fillPlaceholders text arguments).map String.join := by
  induction texts with
  | nil => cases arguments <;> rfl
  | cons text rest inductionHypothesis =>
      rw [List.forall_mem_cons] at closed
      rw [String.join_cons, fillPlaceholders_append closed.1, inductionHypothesis closed.2,
        List.mapM_cons]
      cases fillPlaceholders text arguments with
      | error error => rfl
      | ok first =>
          cases rest.mapM fun text => fillPlaceholders text arguments with
          | error error => rfl
          | ok others => exact congrArg Except.ok String.join_cons.symm

/-- An empty text and an unopened placeholder between others, one of which inserts a placeholder. -/
theorem fillPlaceholders_join_of_closed :
    (∀ text ∈ ["\x7b0\x7d!", "", "1\x7d\x7b1\x7d"], ¬ Piece.LeavesOpen text.toList) ∧
      fillPlaceholders "\x7b0\x7d!1\x7d\x7b1\x7d" (.list [.text "\x7b1\x7d", .text "x"]) =
        .ok "\x7b1\x7d!1\x7dx" := by
  have closed : ∀ text ∈ ["\x7b0\x7d!", "", "1\x7d\x7b1\x7d"],
      ¬ Piece.LeavesOpen text.toList := by
    decide
  refine ⟨closed, ?_⟩
  have together : String.join ["\x7b0\x7d!", "", "1\x7d\x7b1\x7d"] =
      "\x7b0\x7d!1\x7d\x7b1\x7d" := by
    decide
  rw [← together, fillPlaceholders_join closed]
  decide +kernel

end Concord
