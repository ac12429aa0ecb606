/-
  The lines of a report, and how the chain is read back from them.

  A report has one shape for a message alone, one for a single cause and one for several.  Line by
  line they are one: the lines of the message, and for every cause in turn a first line behind a
  label and further lines moved in.

  1. **Lines** — a line end divides the lines of a text (`linesOf_append`), and moving the further
     lines of a text in keeps its lines apart (`linesOf_indentRest`, by induction on the text with
     the label before it as a variable).
  2. **Reports** — so the lines of a report are those of its chain, in order, each entry once
     (`linesOf_layout`).  Several causes are an induction on the causes, with the number of the
     first of them and the text before it as variables.
  3. **Reading back** — where every text is one line, the number of lines tells how many causes
     there are, and so the labels; taking these away gives the chain (`readBack_layout`).
  4. **Failures** — `report_tells_chain` puts these together: no cause is lost, and two chains with
     one report are the same.
-/
import Mathlib.Data.List.Basic
import Handover.Proofs.Report

namespace Handover

namespace Report

/-! ## Lines -/

/-- The lines of a text: one more than there are line ends. -/
def linesOf (text : List Char) : List (List Char) := text.splitOn '\n'

/-- A line end divides the lines. -/
theorem linesOf_append (xs ys : List Char) :
    linesOf (xs ++ '\n' :: ys) = linesOf xs ++ linesOf ys :=
  List.splitOnP_append_cons xs ys (beq_self_eq_true '\n')

theorem linesOf_of_one_line {text : List Char} (h : '\n' ∉ text) : linesOf text = [text] :=
  List.splitOn_eq_singleton h

/-- The lines of a text with a label before the first of them and blanks before the others. -/
def labelled (label : List Char) (width : Nat) (text : List Char) : List (List Char) :=
  match linesOf text with
  | [] => []
  | first :: more => (label ++ first) :: more.map (List.replicate width ' ' ++ ·)

theorem labelled_lineEnd (label : List Char) (width : Nat) (text : List Char) :
    labelled label width ('\n' :: text)
      = label :: labelled (List.replicate width ' ') width text := by
  have hlines : linesOf ('\n' :: text) = [] :: linesOf text := linesOf_append [] text
  unfold labelled
  rw [hlines]
  cases linesOf text with
  | nil => simp
  | cons first more => simp

theorem labelled_cons {c : Char} (hc : c ≠ '\n') (label : List Char) (width : Nat)
    (text : List Char) : labelled label width (c :: text) = labelled (label ++ [c]) width text := by
  have hlines : linesOf (c :: text) = (linesOf text).modifyHead (c :: ·) := by
    unfold linesOf List.splitOn
    rw [List.splitOnP_cons_eq_if_modifyHead, if_neg (by simpa using hc)]
  unfold labelled
  rw [hlines]
  cases linesOf text with
  | nil => rfl
  | cons first more => simp

/-- **Moving the further lines of a text in keeps its lines apart.** -/
theorem linesOf_indentRest {label : List Char} (h : '\n' ∉ label) (width : Nat) (text : List Char) :
    linesOf (label ++ indentRest width text) = labelled label width text := by
  induction text generalizing label with
  | nil =>
    show linesOf (label ++ []) = [label ++ []]
    rw [List.append_nil]
    exact linesOf_of_one_line h
  | cons c rest ih =>
    have hstep : indentRest width (c :: rest)
        = (if c = '\n' then '\n' :: List.replicate width ' ' else [c])
          ++ indentRest width rest := rfl
    rw [hstep]
    by_cases hc : c = '\n'
    · have hblanks : '\n' ∉ List.replicate width ' ' := fun hmem =>
        absurd (List.eq_of_mem_replicate hmem) (by decide)
      rw [if_pos hc, hc, List.cons_append, linesOf_append, linesOf_of_one_line h, ih hblanks,
        labelled_lineEnd, List.singleton_append]
    · have hlabel : '\n' ∉ label ++ [c] := by
        simpa using ⟨h, Ne.symm hc⟩
      rw [if_neg hc, ← List.append_assoc, ih hlabel, labelled_cons hc]

/-! ## Reports -/

/-- What stands before a cause: blanks if it is the only one, its number if there are several. -/
def label (count n : Nat) : List Char :=
  if count = 1 then List.replicate 4 ' ' else numberColumn n ++ [':', ' ']

theorem lineEnd_notMem_label (count n : Nat) : '\n' ∉ label count n := by
  unfold label numberColumn
  split
  · simp
  · have hdigits : '\n' ∉ Nat.toDigits 10 n := fun h =>
      absurd (Nat.isDigit_of_mem_toDigits (by decide) (by decide) h) (by decide)
    simp [hdigits]

/-- The lines of the causes, each with its label. -/
def causeLines (causes : List (List Char)) : List (List Char) :=
  causes.zipIdx.flatMap fun e => labelled (label causes.length e.2) (lineIndent causes) e.1

/-- The lines that list a chain: those of the message, and, if anything caused it, an empty line, a
    heading and those of the causes in their order. -/
def chainLines : List (List Char) → List (List Char)
  | [] => [[]]
  | [message] => linesOf message
  | message :: causes => linesOf message ++ [[], "Caused by:".toList] ++ causeLines causes

/-- Several causes, behind any text. -/
theorem linesOf_numberedFrom (xs : List Char) (n : Nat) (causes : List (List Char)) :
    linesOf (xs ++ numberedFrom n causes) = linesOf xs
      ++ (causes.zipIdx n).flatMap fun e => labelled (numberColumn e.2 ++ [':', ' ']) 7 e.1 := by
  induction causes generalizing xs n with
  | nil => rw [numberedFrom, List.append_nil, List.zipIdx_nil, List.flatMap_nil, List.append_nil]
  | cons cause rest ih =>
    have hlabel : '\n' ∉ numberColumn n ++ [':', ' '] := lineEnd_notMem_label 0 n
    rw [numberedFrom, List.cons_append, linesOf_append, ih, numbered, linesOf_indentRest hlabel,
      List.zipIdx_cons, List.flatMap_cons]

/-- The heading is a line of its own, after an empty one. -/
theorem linesOf_heading (message : List Char) :
    linesOf (message ++ heading) = linesOf message ++ [[], "Caused by:".toList] := by
  have hheading : heading = '\n' :: ([] ++ '\n' :: "Caused by:".toList) := by decide
  have hline : '\n' ∉ "Caused by:".toList := by decide
  rw [hheading, linesOf_append, linesOf_append, linesOf_of_one_line hline]
  rfl

/-- **The lines of a report are those of its chain**, in its order, each entry once. -/
theorem linesOf_layout (message : List Char) (causes : List (List Char)) :
    linesOf (layout message causes) = chainLines (message :: causes) := by
  match causes with
  | [] => rfl
  | [cause] =>
    have hblanks : '\n' ∉ List.replicate 4 ' ' := lineEnd_notMem_label 1 0
    have honly : causeLines [cause] = labelled (List.replicate 4 ' ') 4 cause := List.append_nil _
    show linesOf (message ++ heading ++ '\n' :: single cause) = _ ++ causeLines [cause]
    rw [linesOf_append, linesOf_heading, single, linesOf_indentRest hblanks, honly]
  | first :: second :: rest =>
    -- With two causes at least every label is a number.
    have hmany : causeLines (first :: second :: rest) = (first :: second :: rest).zipIdx.flatMap
        fun e => labelled (numberColumn e.2 ++ [':', ' ']) 7 e.1 := by
      have hcount : (first :: second :: rest).length ≠ 1 := by simp
      unfold causeLines label
      simp only [if_neg hcount]
      rfl
    show linesOf (message ++ heading ++ numberedFrom 0 (first :: second :: rest)) = _
    rw [linesOf_numberedFrom, linesOf_heading, ← hmany]
    rfl

/-! ## Reading back -/

/-- The lines without their labels. -/
def unlabelled (lines : List (List Char)) : List (List Char) :=
  lines.zipIdx.map fun e => e.1.drop (label lines.length e.2).length

/-- The chain of a report in which every entry is one line. -/
def readBack (report : List Char) : List (List Char) :=
  match linesOf report with
  | message :: _ :: _ :: causes => message :: unlabelled causes
  | lines => lines

/-- Causes of one line each are one line each behind their labels. -/
theorem causeLines_of_one_line {causes : List (List Char)} (h : ∀ cause ∈ causes, '\n' ∉ cause) :
    causeLines causes = causes.zipIdx.map fun e => label causes.length e.2 ++ e.1 := by
  unfold causeLines
  rw [List.map_eq_flatMap]
  refine List.flatMap_congr fun e he => ?_
  unfold labelled
  rw [linesOf_of_one_line (h e.1 (List.fst_mem_of_mem_zipIdx he))]
  rfl

/-- Labels that are put before texts are taken away again; `n` is the number of the first. -/
theorem drop_labels (count n : Nat) (texts : List (List Char)) :
    (((texts.zipIdx n).map fun e => label count e.2 ++ e.1).zipIdx n).map
      (fun e => e.1.drop (label count e.2).length) = texts := by
  induction texts generalizing n with
  | nil => rfl
  | cons text rest ih =>
    rw [List.zipIdx_cons, List.map_cons, List.zipIdx_cons, List.map_cons, ih, List.drop_left]

theorem unlabelled_causeLines {causes : List (List Char)} (h : ∀ cause ∈ causes, '\n' ∉ cause) :
    unlabelled (causeLines causes) = causes := by
  have hlines := causeLines_of_one_line h
  have hlength : (causeLines causes).length = causes.length := by
    rw [hlines, List.length_map, List.length_zipIdx]
  unfold unlabelled
  rw [hlength, hlines]
  exact drop_labels causes.length 0 causes

/-- **A chain of one-line texts is read back from its report.** -/
theorem readBack_layout {message : List Char} {causes : List (List Char)}
    (h : ∀ text ∈ message :: causes, '\n' ∉ text) :
    readBack (layout message causes) = message :: causes := by
  obtain ⟨hmessage, hcauses⟩ := List.forall_mem_cons.mp h
  have hfirst := linesOf_of_one_line hmessage
  unfold readBack
  rw [linesOf_layout]
  cases causes with
  | nil =>
    rw [chainLines, hfirst]
  | cons first rest =>
    -- The empty line and the heading set a chain apart from a message alone.
    have hlines : chainLines (message :: first :: rest)
        = message :: [] :: "Caused by:".toList :: causeLines (first :: rest) := by
      show linesOf message ++ [[], "Caused by:".toList] ++ causeLines (first :: rest) = _
      rw [hfirst]
      rfl
    rw [hlines]
    exact congrArg (message :: ·) (unlabelled_causeLines hcauses)

end Report

/-! ## Failures -/

/-- The words of the error behind a failure.  There is one behind an interpreter that could not be
    started, behind a document of the wrong form, and behind a program that could not be put in
    place, started or waited for; a host error that ends a search keeps its own. -/
inductive Failure.Behind : Failure → String → Prop where
  | interpreterSpawn (interpreter : String) (source : OsError) :
    Behind (.host (.interpreterSpawn interpreter source)) source.message
  | parse (source : Host.DocumentFault) : Behind (.host (.parse source)) source.message
  | search {error : Host.Error} {text : String} (h : Behind (.host error) text) :
    Behind (.resolve (.host error)) text
  | replace (path : Path) (source : OsError) :
    Behind (.launch (.replace path source)) source.message
  | spawn (path : Path) (source : OsError) : Behind (.launch (.spawn path source)) source.message
  | wait (path : Path) (source : OsError) : Behind (.launch (.wait path source)) source.message

theorem Failure.Behind.source? {f : Failure} {text : String} (h : f.Behind text) :
    f.source? = some text := by
  induction h with
  | interpreterSpawn interpreter source => rfl
  | parse source => rfl
  | search h ih => exact ih
  | replace path source => rfl
  | spawn path source => rfl
  | wait path source => rfl

theorem Host.Error.behind_of_source? {e : Host.Error} {text : String} (h : e.source? = some text) :
    Failure.Behind (.host e) text := by
  cases e with
  | interpreterSpawn interpreter source => cases h; exact .interpreterSpawn interpreter source
  | parse source => cases h; exact .parse source
  | _ => cases h

theorem Failure.source?_eq_some_iff {f : Failure} {text : String} :
    f.source? = some text ↔ f.Behind text := by
  constructor
  · intro h
    cases f with
    | host error => exact Host.Error.behind_of_source? h
    | resolve error =>
      cases error with
      | notFound primary => cases h
      | host error => exact .search (Host.Error.behind_of_source? h)
    | launch error =>
      cases error with
      | replace path source => cases h; exact .replace path source
      | spawn path source => cases h; exact .spawn path source
      | wait path source => cases h; exact .wait path source
      | replaceUnsupported path => cases h
  · exact Failure.Behind.source?

namespace Report

theorem exists_chain_cons (contexts : List String) (f : Failure) :
    ∃ message causes, chain contexts f = message :: causes := by
  refine List.exists_cons_of_ne_nil ?_
  exact List.append_ne_nil_of_right_ne_nil _ (List.cons_ne_nil _ _)

/-- A report is laid out as its chain says. -/
theorem toList_ofFailure_of_chain {contexts causes : List String} {message : String} {f : Failure}
    (h : chain contexts f = message :: causes) :
    (ofFailure contexts f).toList = layout message.toList (causes.map String.toList) := by
  unfold ofFailure
  rw [h, render, String.toList_ofList]

/-- Every text of a chain is one line. -/
def OneLined (chain : List String) : Prop := ∀ text ∈ chain, '\n' ∉ text.toList

instance (chain : List String) : Decidable (OneLined chain) :=
  inferInstanceAs (Decidable (∀ text ∈ chain, '\n' ∉ text.toList))

theorem readBack_ofFailure {contexts : List String} {f : Failure}
    (h : OneLined (chain contexts f)) :
    readBack (ofFailure contexts f).toList = (chain contexts f).map String.toList := by
  obtain ⟨message, causes, hchain⟩ := exists_chain_cons contexts f
  rw [toList_ofFailure_of_chain hchain, hchain, List.map_cons]
  refine readBack_layout fun text htext => ?_
  rw [← List.map_cons, ← hchain] at htext
  obtain ⟨s, hs, rfl⟩ := List.mem_map.mp htext
  exact h s hs

/-- **A report loses no cause.**  For every failure and all contexts that were added to it

  1. the chain is the contexts, the last one first, then the failure and then the error behind it;
  2. an error is behind the failures that name one, and behind no others;
  3. the report lists the chain line by line, in its order and each entry once;
  4. a host error that ends a search is reported as the host error itself;
  5. a chain of one-line texts can be read back from its report;
  6. so different chains of one-line texts have different reports. -/
theorem report_tells_chain (contexts : List String) (f : Failure) :
    chain contexts f = contexts.reverse ++ f.message :: f.source?.toList ∧
    (∀ text, f.source? = some text ↔ f.Behind text) ∧
    linesOf (ofFailure contexts f).toList = chainLines ((chain contexts f).map String.toList) ∧
    (∀ error, ofFailure contexts (.resolve (.host error)) = ofFailure contexts (.host error)) ∧
    (OneLined (chain contexts f) →
      readBack (ofFailure contexts f).toList = (chain contexts f).map String.toList) ∧
    (∀ contexts' f', OneLined (chain contexts f) → OneLined (chain contexts' f') →
      chain contexts f ≠ chain contexts' f' → ofFailure contexts f ≠ ofFailure contexts' f') := by
  refine ⟨rfl, fun text => Failure.source?_eq_some_iff, ?_, fun error => rfl, readBack_ofFailure,
    ?_⟩
  · obtain ⟨message, causes, hchain⟩ := exists_chain_cons contexts f
    rw [toList_ofFailure_of_chain hchain, linesOf_layout, hchain, List.map_cons]
  · intro contexts' f' h h' hne hsame
    have hread := readBack_ofFailure h
    rw [hsame, readBack_ofFailure h'] at hread
    exact hne (List.map_injective_iff.mpr (fun _ _ h => String.toList_inj.mp h) hread.symm)

/-- A file that may not be run as a child. -/
def unspawned : Failure := .launch (.spawn (Path.ofString "/x") .permissionDenied)

/-- A file that may not take the place of the launcher. -/
def unreplaced : Failure := .launch (.replace (Path.ofString "/x") .permissionDenied)

/-- Two refusals of one file for one reason: the chain of the one is read back from its report, and
    the other has another report. -/
theorem refusals_told_apart :
    OneLined (chain ["handing over", "launching"] unspawned) ∧
    OneLined (chain ["handing over", "launching"] unreplaced) ∧
    readBack (ofFailure ["handing over", "launching"] unspawned).toList
      = ["launching", "handing over", "Failed to spawn /x: Permission denied (os error 13)",
          "Permission denied (os error 13)"].map String.toList ∧
    ofFailure ["handing over", "launching"] unspawned
      ≠ ofFailure ["handing over", "launching"] unreplaced := by
  have hchain : chain ["handing over", "launching"] unspawned
      = ["launching", "handing over", "Failed to spawn /x: Permission denied (os error 13)",
          "Permission denied (os error 13)"] := by decide +kernel
  have hlines : OneLined (chain ["handing over", "launching"] unspawned) := by decide +kernel
  have hlines' : OneLined (chain ["handing over", "launching"] unreplaced) := by decide +kernel
  have hne : chain ["handing over", "launching"] unspawned
      ≠ chain ["handing over", "launching"] unreplaced := by decide +kernel
  obtain ⟨-, -, -, -, hread, hdiffer⟩ := report_tells_chain ["handing over", "launching"] unspawned
  refine ⟨hlines, hlines', ?_, hdiffer _ _ hlines hlines' hne⟩
  rw [hread hlines, hchain]

end Report

end Handover
