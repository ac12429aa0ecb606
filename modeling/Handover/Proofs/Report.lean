/-
  What can be read off a report.

  A report lays a chain of messages out in one of three shapes: a message alone, a message with one
  cause, a message with several.  Whatever the shape is:

  1. **The message comes first**, as it is (`prefix_layout`).
  2. **Every cause is in the report**, its lines after the first moved in by the same width
     (`infix_layout`); a cause of one line is there as it is (`indentRest_of_one_line`).
  3. **Failures** — both together for the report of a failure under one context
     (`context_prefix_ofFailure`, `message_infix_ofFailure`).
-/
import Handover.Launch.Report

namespace Handover.Report

/-! ## Layouts -/

/-- How far the further lines of a cause are moved in: as far as its first line, which has a number
    before it unless the cause is the only one. -/
def lineIndent {α : Type} : List α → Nat
  | [_] => 4
  | _ => 7

/-- A text of one line has no lines to move. -/
theorem indentRest_of_one_line {width : Nat} {text : List Char} (h : '\n' ∉ text) :
    indentRest width text = text := by
  unfold indentRest
  induction text with
  | nil => rfl
  | cons c rest ih =>
    obtain ⟨hc, hrest⟩ := not_or.mp (mt List.mem_cons.mpr h)
    rw [List.flatMap_cons, if_neg (Ne.symm hc), ih hrest, List.singleton_append]

/-- The message comes first. -/
theorem prefix_layout (message : List Char) (causes : List (List Char)) :
    message <+: layout message causes := by
  unfold layout
  split
  · exact List.prefix_refl _
  · rw [List.append_assoc]
    exact List.prefix_append _ _
  · rw [List.append_assoc]
    exact List.prefix_append _ _

theorem infix_numberedFrom {n : Nat} {cause : List Char} {causes : List (List Char)}
    (h : cause ∈ causes) : indentRest 7 cause <:+: numberedFrom n causes := by
  induction causes generalizing n with
  | nil => exact absurd h List.not_mem_nil
  | cons first rest ih =>
    rw [numberedFrom]
    rcases List.mem_cons.mp h with rfl | hrest
    · -- The cause stands between its number and the causes after it.
      unfold numbered
      exact ⟨'\n' :: (numberColumn n ++ [':', ' ']), numberedFrom (n + 1) rest, by simp⟩
    · exact (ih hrest).trans (List.suffix_append _ _).isInfix

/-- **Every cause is in the layout**, its further lines moved in. -/
theorem infix_layout {cause : List Char} {causes : List (List Char)} (h : cause ∈ causes)
    (message : List Char) : indentRest (lineIndent causes) cause <:+: layout message causes := by
  match causes, h with
  | [only], h =>
    rw [List.mem_singleton.mp h]
    unfold layout single lineIndent
    exact ⟨message ++ heading ++ '\n' :: List.replicate 4 ' ', [], by simp⟩
  | first :: second :: rest, h =>
    exact (infix_numberedFrom h).trans (List.suffix_append _ _).isInfix

/-! ## Failures -/

/-- The report of a failure under one context, as a layout. -/
theorem toList_ofFailure (context : String) (f : Failure) :
    (ofFailure [context] f).toList = layout context.toList (f.causes.map String.toList) := by
  show (String.ofList _).toList = _
  rw [String.toList_ofList]
  rfl

/-- The report begins with the context. -/
theorem context_prefix_ofFailure (context : String) (f : Failure) :
    context.toList <+: (ofFailure [context] f).toList := by
  rw [toList_ofFailure]
  exact prefix_layout _ _

/-- The report contains the words of the failure, their further lines moved in. -/
theorem message_infix_ofFailure (context : String) (f : Failure) :
    indentRest (lineIndent f.causes) f.message.toList <:+: (ofFailure [context] f).toList := by
  have hindent : lineIndent (f.causes.map String.toList) = lineIndent f.causes := by
    unfold Failure.causes
    cases f.source? with
    | none => rfl
    | some source => rfl
  have hmem : f.message.toList ∈ f.causes.map String.toList :=
    List.mem_map_of_mem List.mem_cons_self
  rw [toList_ofFailure, ← hindent]
  exact infix_layout hmem _

end Handover.Report
