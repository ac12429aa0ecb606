/-
  Words on their way to their final form, and the patterns among them.

  Once everything in a word is replaced it is a list of *cells*.  A cell remembers whether its
  character was quoted, or came out of a replacement and may end a field.  The same cells are read
  as a pattern: what was quoted stands for itself there.
-/
import Handover.Shell.Syntax

namespace Handover.Shell

/-- A part of a word in which everything is replaced. -/
inductive Cell where
  | char (c : Char) (quoted : Bool)
  /-- A character that was put in without quotes, so that a blank ends the field. -/
  | loose (c : Char)
  /-- Nothing, but quoted: there is a field even if it stays empty. -/
  | void
  /-- The end of a field. -/
  | fieldEnd
deriving Repr, DecidableEq

/-- The cell as part of a replacement. -/
def Cell.loosened : Cell → Cell
  | .char c false => .loose c
  | cell => cell

/-- The text of cells. -/
def textOf (cells : List Cell) : Chars :=
  cells.flatMap fun
    | .char c _ | .loose c => [c]
    | .void => []
    | .fieldEnd => [' ']

/-! ## Fields -/

/-- Characters, each with whether it was quoted. -/
abbrev Marked := List (Char × Bool)

/-- The text of marked characters. -/
def Marked.text (m : Marked) : Chars := m.map Prod.fst

/-- What stands before a cell: a field that is begun, with its last character first, or the blanks or
    another separator behind a field. -/
inductive Begun where
  | field (reversed : Marked)
  | blanks
  | nothing

/-- The fields of cells.  Blanks around another separator belong to it. -/
def fieldsFrom (separators : Chars) : Begun → List Cell → List Marked
  | .field m, [] => [m.reverse]
  | _, [] => []
  | .field m, .char c quoted :: rest => fieldsFrom separators (.field ((c, quoted) :: m)) rest
  | _, .char c quoted :: rest => fieldsFrom separators (.field [(c, quoted)]) rest
  | .field m, .void :: rest => fieldsFrom separators (.field m) rest
  | _, .void :: rest => fieldsFrom separators (.field []) rest
  | .field m, .fieldEnd :: rest => m.reverse :: fieldsFrom separators .nothing rest
  | _, .fieldEnd :: rest => fieldsFrom separators .nothing rest
  | begun, .loose c :: rest =>
    if !separators.contains c then
      match begun with
      | .field m => fieldsFrom separators (.field ((c, false) :: m)) rest
      | _ => fieldsFrom separators (.field [(c, false)]) rest
    else if c = ' ' ∨ c = '\t' ∨ c = '\n' then
      match begun with
      | .field m => m.reverse :: fieldsFrom separators .blanks rest
      | begun => fieldsFrom separators begun rest
    else
      match begun with
      | .field m => m.reverse :: fieldsFrom separators .nothing rest
      | .blanks => fieldsFrom separators .nothing rest
      | .nothing => [] :: fieldsFrom separators .nothing rest

/-- The fields of cells. -/
def fields (separators : Chars) (cells : List Cell) : List Marked :=
  fieldsFrom separators .nothing cells

/-! ## Patterns -/

/-- A sign of a pattern. -/
inductive Sign where
  | exactly (c : Char)
  | anyOne
  | anyMany
  /-- One character of the given ranges, or one of none of them. -/
  | oneOf (negated : Bool) (ranges : List (Char × Char))
deriving Repr, DecidableEq

/-- The ranges of a class of characters that has a name. -/
def classRanges? (name : Chars) : Option (List (Char × Char)) :=
  let signs := [('!', '/'), (':', '@'), ('[', '\x60'), ('\x7b', '~')]
  match String.ofList name with
  | "alpha" => some [('a', 'z'), ('A', 'Z')]
  | "digit" => some [('0', '9')]
  | "alnum" => some [('a', 'z'), ('A', 'Z'), ('0', '9')]
  | "upper" => some [('A', 'Z')]
  | "lower" => some [('a', 'z')]
  | "space" => some [(' ', ' '), ('\t', '\x0d')]
  | "blank" => some [(' ', ' '), ('\t', '\t')]
  | "punct" => some signs
  | "print" => some [(' ', '~')]
  | "graph" => some [('!', '~')]
  | "cntrl" => some [('\x00', '\x1f'), ('\x7f', '\x7f')]
  | "xdigit" => some [('0', '9'), ('a', 'f'), ('A', 'F')]
  | _ => none

/-- The ranges of a class that is named at the start of a pattern, and what follows it. -/
def splitClass (m : Marked) : Option (List (Char × Char) × Marked) :=
  match m with
  | ('[', _) :: (':', _) :: rest =>
    let name := (rest.takeWhile fun c => c.1.isAlpha).map Prod.fst
    match rest.drop name.length with
    | (':', _) :: (']', _) :: rest => (classRanges? name).map fun rs => (rs, rest)
    | _ => none
  | _ => none

/-- The characters of cells. -/
def marked (cells : List Cell) : Marked :=
  cells.flatMap fun
    | .char c quoted => [(c, quoted)]
    | .loose c => [(c, false)]
    | .void => []
    | .fieldEnd => [(' ', true)]

/-- A character without the backslash that takes its meaning, and what follows it. -/
def splitMarked : Marked → Option (Char × Bool × Marked)
  | ('\\', false) :: (c, _) :: rest => some (c, true, rest)
  | (c, quoted) :: rest => some (c, quoted, rest)
  | [] => none

/-- The ranges up to the bracket that ends them, and what follows it. -/
def ranges : Nat → Bool → Marked → Option (List (Char × Char) × Marked)
  | 0, _, _ => none
  | fuel + 1, first, m =>
    match splitClass m with
    | some (rs, rest) => (ranges fuel false rest).map fun r => (rs ++ r.1, r.2)
    | none =>
      match splitMarked m with
      | none => none
      | some (c, quoted, rest) =>
        if c = ']' ∧ !quoted ∧ !first then some ([], rest)
        else
          match rest with
          | ('-', false) :: after =>
            match splitMarked after with
            | some (d, q, beyond) =>
              if d = ']' ∧ !q then (ranges fuel false rest).map fun r => ((c, c) :: r.1, r.2)
              else (ranges fuel false beyond).map fun r => ((c, d) :: r.1, r.2)
            | none => none
          | _ => (ranges fuel false rest).map fun r => ((c, c) :: r.1, r.2)

/-- The signs of a pattern. -/
def signs : Nat → Marked → List Sign
  | 0, _ => []
  | _ + 1, [] => []
  | fuel + 1, (c, quoted) :: rest =>
    if quoted then .exactly c :: signs fuel rest
    else if c = '*' then .anyMany :: signs fuel rest
    else if c = '?' then .anyOne :: signs fuel rest
    else if c = '[' then
      let (negated, body) := match rest with
        | ('!', false) :: body => (true, body)
        | _ => (false, rest)
      match ranges (body.length + 1) true body with
      | some (rs, rest) => .oneOf negated rs :: signs fuel rest
      | none => .exactly c :: signs fuel rest
    else
      match c, rest with
      | '\\', (d, _) :: rest => .exactly d :: signs fuel rest
      | c, rest => .exactly c :: signs fuel rest

/-- The character is one that the sign stands for. -/
def Sign.accepts (sign : Sign) (c : Char) : Bool :=
  match sign with
  | .exactly d => c == d
  | .anyOne | .anyMany => true
  | .oneOf negated rs => (rs.any fun r => decide (r.1 ≤ c) && decide (c ≤ r.2)) != negated

/-- The text is one that the signs stand for. -/
def matchesSigns : List Sign → Chars → Bool
  | [], text => text.isEmpty
  | .anyMany :: rest, [] => matchesSigns rest []
  | .anyMany :: rest, c :: text => matchesSigns rest (c :: text) || matchesSigns (.anyMany :: rest) text
  | _ :: _, [] => false
  | sign :: rest, c :: text => sign.accepts c && matchesSigns rest text
termination_by signs text => signs.length + text.length

/-- The text is one that marked characters stand for as a pattern. -/
def Marked.accepts (m : Marked) (text : Chars) : Bool :=
  matchesSigns (signs (m.length + 1) m) text

/-- The text is one that cells stand for as a pattern. -/
def matchesPattern (cells : List Cell) (text : Chars) : Bool := (marked cells).accepts text

/-- The characters stand for more than themselves. -/
def Marked.isPattern (m : Marked) : Bool := m.any fun c => !c.2 && "*?[".toList.contains c.1

/-! ## Readings -/

example : fields [' '] [.loose 'a', .loose ' ', .loose ' ', .char 'b' true, .void]
    = [[('a', false)], [('b', true)]] := by decide
example : fields [' '] [.void] = [[]] := by decide

end Handover.Shell
