/-
  Tools that take texts apart line by line.

  The order of lines is that of their bytes.  Counts are written in columns that are wide enough for
  the largest of them.
-/
import Handover.Tools.Text

namespace Handover.Tools

open Machine (World Ran Outlet)

/-! ## Numbers in words -/

/-- The number that a word of digits is. -/
def wholeNumber? (word : Bytes) : Option Nat :=
  if word.isEmpty || !word.all fun b => 0x30 ≤ b && b ≤ 0x39 then none
  else some (word.foldl (fun n b => n * 10 + (b.toNat - 0x30)) 0)

/-- The first word written out if it is a dash and a number, as a count of lines. -/
def withCount (c : Call) : Call :=
  match c.words with
  | (0x2D :: digits) :: rest =>
    match wholeNumber? digits with
    | some _ => { c with words := Text.encode "-n" :: digits :: rest }
    | none => c
  | _ => c

/-! ## Ends of texts -/

namespace Part

/-- The options of the tools that write a part of a text. -/
def kinds : List OptionKind :=
  [⟨'n', "lines", .needed, true⟩, ⟨'c', "bytes", .needed, true⟩, ⟨'q', "quiet", .none, true⟩,
   ⟨'v', "verbose", .none, true⟩]

/-- How much is written: a number of lines or bytes, with the sign before it. -/
structure Amount where
  bytes : Bool := false
  sign : Option UInt8 := none
  count : Nat := 10

/-- The amount that options ask for, or the word that is none. -/
def amountOf : Amount → List Given → Except (Bool × Bytes) Amount
  | a, [] => .ok a
  | a, (letter, value) :: rest =>
    if letter = 'n' ∨ letter = 'c' then
      let word := value.getD []
      let (sign, digits) := match word with
        | b :: digits => if b = 0x2D ∨ b = 0x2B then (some b, digits) else (none, word)
        | [] => (none, [])
      match wholeNumber? digits with
      | some count => amountOf ⟨letter == 'c', sign, count⟩ rest
      | none => .error (letter == 'c', word)
    else amountOf a rest

/-- Write parts of files, with their names above them where there are several. -/
def run (c : Call) (part : Amount → Bytes → Bytes) : Ran :=
  (withCount c).withOptions kinds 1 fun given words =>
    match amountOf {} given with
    | .error (bytes, word) =>
      c.ends 1 [c.saying (Text.encode ("invalid number of " ++ (if bytes then "bytes" else "lines")
        ++ ": ") ++ quoted word)]
    | .ok amount =>
      let asked := fun (letter : Char) => (given.filter fun g => g.1 = 'q' ∨ g.1 = 'v').getLast?.any
        fun g => g.1 == letter
      let titled := asked 'v' || (decide (1 < words.length) && !asked 'q')
      let title := fun (isFirst : Bool) (word : Bytes) =>
        if titled then
          (if isFirst then [] else [0x0A]) ++ Text.encode "==> "
            ++ (if word = [dash] then Text.encode "standard input" else word)
            ++ Text.encode " <==\n"
        else []
      let words := if words = [] then [[dash]] else words
      c.endsAs <| c.throughFiles words
        (fun r word content =>
          let isFirst := !r.writes.any fun e => e.1 = .output
          r.write (title isFirst word ++ part amount content))
        (fun word e =>
          if e = .isADirectory then
            Text.encode "error reading " ++ named.inWords word ++ Text.encode ": " ++ faultText e
          else
            Text.encode "cannot open " ++ named.inWords word ++ Text.encode " for reading: "
              ++ faultText e)

end Part

/-- Write the start of files. -/
def head (c : Call) : Ran :=
  Part.run c fun a text =>
    let count := fun (all : Nat) => if a.sign = some 0x2D then all - a.count else a.count
    if a.bytes then text.take (count text.length)
    else
      let lines := linesOf text
      (lines.take (count lines.length)).flatten

/-- Write the end of files. -/
def tail (c : Call) : Ran :=
  Part.run c fun a text =>
    let skipped := fun (all : Nat) => if a.sign = some 0x2B then a.count - 1 else all - a.count
    if a.bytes then text.drop (skipped text.length)
    else
      let lines := linesOf text
      (lines.drop (skipped lines.length)).flatten

/-! ## Counts -/

namespace Count

/-- The counts of a text: lines, words and bytes. -/
structure Counts where
  lines : Nat := 0
  words : Nat := 0
  bytes : Nat := 0

/-- A blank between words. -/
def isBlank (b : UInt8) : Bool := b == 0x20 || (0x09 ≤ b && b ≤ 0x0D)

/-- How many words a text holds.  `inWord` says that the byte before belongs to one. -/
def wordsIn : Bool → Bytes → Nat
  | _, [] => 0
  | inWord, b :: rest =>
    if isBlank b then wordsIn false rest
    else (if inWord then 0 else 1) + wordsIn true rest

/-- The counts of a text. -/
def ofText (text : Bytes) : Counts := ⟨text.count 0x0A, wordsIn false text, text.length⟩

/-- The counts of two texts together. -/
def Counts.add (a b : Counts) : Counts := ⟨a.lines + b.lines, a.words + b.words, a.bytes + b.bytes⟩

/-- The counts that are wanted. -/
def Counts.chosen (letters : List Char) (a : Counts) : List Nat :=
  (if letters.contains 'l' then [a.lines] else []) ++
    (if letters.contains 'w' then [a.words] else []) ++
    (if letters.contains 'c' then [a.bytes] else [])

/-- The options. -/
def kinds : List OptionKind :=
  [⟨'l', "lines", .none, true⟩, ⟨'w', "words", .none, true⟩, ⟨'c', "bytes", .none, true⟩,
   ⟨'m', "chars", .none, true⟩]

/-- The width of the columns. -/
def width (c : Call) (columns : Nat) (words : List Bytes) : Nat :=
  if columns = 1 ∧ words.length ≤ 1 then 1
  else
    let sizes := words.map fun word =>
      match c.world.files.status c.world.cwd word with
      | .ok (_, .file _ content) => (content.length, 1)
      | .ok _ => (0, 7)
      | .error _ => (0, if word = [dash] then 7 else 1)
    let total := sizes.foldl (fun n s => n + s.1) 0
    let least := if words = [] then 7 else sizes.foldl (fun n s => max n s.2) 1
    max least (Nat.toDigits 10 total).length

end Count

/-- Count the lines, words and bytes of files. -/
def wc (c : Call) : Ran :=
  c.withOptions Count.kinds 1 fun given words =>
    let letters := given.map fun g => if g.1 = 'm' then 'c' else g.1
    let letters := if letters = [] then ['l', 'w', 'c'] else letters
    let columns := ((Count.Counts.chosen letters {}).length)
    let width := Count.width c columns words
    let line := fun (counts : Count.Counts) (name : Bytes) =>
      ([0x20] : Bytes).intercalate ((counts.chosen letters).map (rightAligned width))
        ++ (if name = [] then [] else 0x20 :: name) ++ [0x0A]
    let read := (if words = [] then [[]] else words).foldl
      (fun (state : Reading × Count.Counts) word =>
        let (r, total) := state
        let (content, input) := contentOf c.world r.input (if word = [] then [dash] else word)
        let r := { r with input }
        match content with
        | .ok text =>
          let counts := Count.ofText text
          (r.write (line counts word), total.add counts)
        | .error e =>
          let r := { r with
            failed := true
            writes := r.writes ++ [c.saying (named word ++ Text.encode ": " ++ faultText e)] }
          (if e = .isADirectory then r.write (line {} word) else r, total))
      ({ input := c.input }, {})
    let (r, total) := read
    c.endsAs (if 1 < words.length then r.write (line total (Text.encode "total")) else r)

/-! ## Order -/

namespace Ordered

/-- The options. -/
def kinds : List OptionKind :=
  [⟨'r', "reverse", .none, true⟩, ⟨'n', "numeric-sort", .none, true⟩,
   ⟨'u', "unique", .none, true⟩, ⟨'f', "ignore-case", .none, true⟩,
   ⟨'b', "ignore-leading-blanks", .none, true⟩, ⟨'s', "stable", .none, true⟩]

/-- The number at the start of a line, in millionths. -/
def numberOf (line : Bytes) : Int :=
  let line := line.dropWhile fun b => b == 0x20 || b == 0x09
  let (negative, digits) := match line with
    | 0x2D :: rest => (true, rest)
    | _ => (false, line)
  let isDigit := fun (b : UInt8) => 0x30 ≤ b && b ≤ 0x39
  let value := fun (ds : Bytes) => ds.foldl (fun n b => n * 10 + (b.toNat - 0x30)) 0
  let whole := digits.takeWhile isDigit
  let places := match digits.drop whole.length with
    | 0x2E :: rest => (rest.takeWhile isDigit).take 6
    | _ => []
  let n : Int := (value (whole ++ places) * Nat.pow 10 (6 - places.length) : Nat)
  if negative then -n else n

/-- The byte without regard to case. -/
def upper (b : UInt8) : UInt8 := if 0x61 ≤ b ∧ b ≤ 0x7A then b - 0x20 else b

/-- How two byte strings stand to one another. -/
def compareBytes : Bytes → Bytes → Ordering
  | [], [] => .eq
  | [], _ :: _ => .lt
  | _ :: _, [] => .gt
  | a :: as, b :: bs => if a < b then .lt else if b < a then .gt else compareBytes as bs

/-- How two lines stand to one another by their keys. -/
def compareKeys (letters : List Char) (a b : Bytes) : Ordering :=
  let key := fun (line : Bytes) =>
    let line := if letters.contains 'b' then line.dropWhile (fun b => b == 0x20 || b == 0x09)
      else line
    if letters.contains 'f' then line.map upper else line
  if letters.contains 'n' then compare (numberOf a) (numberOf b)
  else compareBytes (key a) (key b)

/-- The first line may stand before the second. -/
def inOrder (letters : List Char) (a b : Bytes) : Bool :=
  let plain := letters.contains 'u' || letters.contains 's'
  let order := match compareKeys letters a b with
    | .eq => if plain then Ordering.eq else compareBytes a b
    | order => order
  if letters.contains 'r' then order != .lt else order != .gt

/-- The lines without those that count as the same as the one before them. -/
def distinct (letters : List Char) : List Bytes → List Bytes
  | a :: b :: rest =>
    if compareKeys letters a b = .eq then distinct letters (a :: rest)
    else a :: distinct letters (b :: rest)
  | lines => lines
termination_by lines => lines.length

end Ordered

/-- Write the lines of files in order. -/
def sort (c : Call) : Ran :=
  c.withOptions Ordered.kinds 2 fun given words =>
    let letters := given.map Prod.fst
    let fault := words.findSome? fun word =>
      match contentOf c.world c.input word with
      | (.error e, _) => some (word, e)
      | _ => none
    match fault with
    | some (word, e) =>
      let action := if e = .isADirectory then "read failed: " else "cannot read: "
      c.ends 2 [c.saying (Text.encode action ++ named word ++ Text.encode ": " ++ faultText e)]
    | none =>
      let r := c.throughFiles (if words = [] then [[dash]] else words)
        (fun r _ text => r.write text) (fun _ _ => [])
      let lines := (r.writes.flatMap fun e => linesOf e.2).map fun line =>
        if line.getLast? = some 0x0A then line.dropLast else line
      let sorted := lines.mergeSort (Ordered.inOrder letters)
      let sorted := if letters.contains 'u' then Ordered.distinct letters sorted else sorted
      c.endsAs { r with writes := [(.output, sorted.flatMap fun line => line ++ [0x0A])] }

/-! ## Neighbours -/

/-- Lines with how often each stands there in a row. -/
def runsOf : List Bytes → List (Bytes × Nat)
  | [] => []
  | line :: rest =>
    match runsOf rest with
    | (other, n) :: more =>
      if line = other then (other, n + 1) :: more else (line, 1) :: (other, n) :: more
    | [] => [(line, 1)]

/-- Write one line of each row of equal lines. -/
def uniq (c : Call) : Ran :=
  c.withOptions [⟨'c', "count", .none, true⟩, ⟨'d', "repeated", .none, true⟩,
      ⟨'u', "unique", .none, true⟩] 1 fun given words =>
    let has := fun (letter : Char) => given.any fun g => g.1 == letter
    c.endsAs <| c.throughFiles (if words = [] then [[dash]] else words.take 1)
      (fun r _ text =>
        let lines := (linesOf text).map fun line =>
          if line.getLast? = some 0x0A then line.dropLast else line
        let chosen := (runsOf lines).filter fun e =>
          (!has 'd' || decide (1 < e.2)) && (!has 'u' || e.2 == 1)
        r.write (chosen.flatMap fun e =>
          (if has 'c' then rightAligned 7 e.2 ++ [0x20] else []) ++ e.1 ++ [0x0A]))
      (fun word e => named word ++ Text.encode ": " ++ faultText e)

/-! ## Columns -/

namespace Cut

/-- The parts of a byte string between separators. -/
def parts (separator : UInt8) : Bytes → List Bytes
  | [] => [[]]
  | b :: rest =>
    match parts separator rest with
    | [] => [[b]]
    | part :: more => if b = separator then [] :: part :: more else (b :: part) :: more

/-- A range of places, the last of which may be open. -/
abbrev Range := Nat × Option Nat

/-- The range that a word is. -/
def rangeOf (word : Bytes) : Option Range :=
  match parts dash word with
  | [one] => (wholeNumber? one).map fun n => (n, some n)
  | [first, last] =>
    match first, last with
    | [], [] => none
    | [], last => (wholeNumber? last).map fun n => (1, some n)
    | first, [] => (wholeNumber? first).map fun n => (n, none)
    | first, last => do return (← wholeNumber? first, some (← wholeNumber? last))
  | _ => none

/-- The place is in one of the ranges. -/
def chosen (ranges : List Range) (place : Nat) : Bool :=
  ranges.any fun r => decide (r.1 ≤ place) && r.2.all fun last => decide (place ≤ last)

/-- The things at the places that are in one of the ranges. -/
def pick {α : Type} (ranges : List Range) (things : List α) : List α :=
  ((things.zipIdx 1).filter fun e => chosen ranges e.2).map Prod.fst

/-- The options. -/
def kinds : List OptionKind :=
  [⟨'c', "characters", .needed, true⟩, ⟨'b', "bytes", .needed, true⟩,
   ⟨'f', "fields", .needed, true⟩, ⟨'d', "delimiter", .needed, true⟩,
   ⟨'s', "only-delimited", .none, true⟩]

end Cut

/-- Write parts of lines. -/
def cut (c : Call) : Ran :=
  c.withOptions Cut.kinds 1 fun given words =>
    let valueOf := fun (letters : List Char) =>
      (given.find? fun g => letters.contains g.1).bind Prod.snd
    let isStrict := given.any fun g => g.1 == 's'
    let separator := ((valueOf ['d']).bind List.head?).getD 0x09
    let ranges := fun (list : Bytes) => (Cut.parts 0x2C list).mapM Cut.rangeOf
    let each := fun (line : Bytes → Option Bytes) =>
      c.endsAs <| c.throughFiles (if words = [] then [[dash]] else words)
        (fun r _ text => r.write ((linesOf text).flatMap fun l =>
          let body := if l.getLast? = some 0x0A then l.dropLast else l
          ((line body).map fun l => l ++ [0x0A]).getD []))
        (fun word e => named word ++ Text.encode ": " ++ faultText e)
    let invalid := fun (list : Bytes) =>
      c.misused 1 (Text.encode "invalid field range " ++ quoted list)
    match valueOf ['c', 'b'], valueOf ['f'] with
    | some list, _ =>
      match ranges list with
      | some ranges => each fun line => some (Cut.pick ranges line)
      | none => invalid list
    | none, some list =>
      match ranges list with
      | some ranges => each fun line =>
        if line.contains separator then
          some (([separator] : Bytes).intercalate (Cut.pick ranges (Cut.parts separator line)))
        else if isStrict then none else some line
      | none => invalid list
    | none, none =>
      c.misused 1 (Text.encode "you must specify a list of bytes, characters, or fields")

/-! ## Other signs -/

namespace Translate

/-- The bytes of a class that has a name. -/
def classOf (name : Bytes) : List UInt8 :=
  let range := fun (a b : Nat) => (List.range' a (b + 1 - a)).map UInt8.ofNat
  let upper := range 0x41 0x5A
  let lower := range 0x61 0x7A
  let digits := range 0x30 0x39
  if name = Text.encode "lower" then lower
  else if name = Text.encode "upper" then upper
  else if name = Text.encode "digit" then digits
  else if name = Text.encode "alpha" then upper ++ lower
  else if name = Text.encode "alnum" then digits ++ upper ++ lower
  else if name = Text.encode "space" then range 0x09 0x0D ++ [0x20]
  else if name = Text.encode "blank" then [0x09, 0x20]
  else if name = Text.encode "punct" then
    range 0x21 0x2F ++ range 0x3A 0x40 ++ range 0x5B 0x60 ++ range 0x7B 0x7E
  else if name = Text.encode "cntrl" then range 0 0x1F ++ [0x7F]
  else if name = Text.encode "print" then range 0x20 0x7E
  else []

/-- A byte with its escape read, and what follows it. -/
def one : Bytes → Option (UInt8 × Bytes)
  | [] => none
  | 0x5C :: rest =>
    match (Shell.escape (Shell.Chars.ofBytes rest)) with
    | ('\\', after) =>
      if after.length = rest.length then
        match rest with
        | b :: rest => some (b, rest)
        | [] => some (0x5C, [])
      else some (0x5C, Shell.Chars.toBytes after)
    | (c, after) => some (UInt8.ofNat c.toNat, Shell.Chars.toBytes after)
  | b :: rest => some (b, rest)

/-- The bytes that a set names, in their order. -/
def setOf : Nat → Bytes → List UInt8
  | 0, _ => []
  | fuel + 1, text =>
    match text with
    | 0x5B :: 0x3A :: rest =>
      let name := rest.takeWhile (· != 0x3A)
      match rest.drop name.length with
      | 0x3A :: 0x5D :: rest => classOf name ++ setOf fuel rest
      | _ => 0x5B :: 0x3A :: setOf fuel rest
    | text =>
      match one text with
      | none => []
      | some (a, 0x2D :: rest) =>
        match one rest with
        | some (b, after) =>
          (List.range' a.toNat (b.toNat + 1 - a.toNat)).map UInt8.ofNat ++ setOf fuel after
        | none => [a, 0x2D]
      | some (a, rest) => a :: setOf fuel rest

/-- Only one of several equal bytes in a row, where they are in a set. -/
def squeeze (set_ : List UInt8) : Bytes → Bytes
  | a :: b :: rest =>
    if a = b ∧ set_.contains a then squeeze set_ (b :: rest) else a :: squeeze set_ (b :: rest)
  | bytes => bytes

/-- The options. -/
def kinds : List OptionKind :=
  [⟨'d', "delete", .none, true⟩, ⟨'s', "squeeze-repeats", .none, true⟩,
   ⟨'c', "complement", .none, true⟩, ⟨'C', "", .none, true⟩, ⟨'t', "truncate-set1", .none, true⟩]

end Translate

/-- Replace or delete bytes of the input. -/
def tr (c : Call) : Ran :=
  c.withOptions Translate.kinds 1 fun given words =>
    let has := fun (letter : Char) => given.any fun g => g.1 == letter
    let setOf := fun (word : Bytes) => Translate.setOf (word.length + 1) word
    let first := fun (word : Bytes) =>
      let set_ := setOf word
      if has 'c' || has 'C' then
        ((List.range 256).map UInt8.ofNat).filter fun b => !set_.contains b
      else set_
    let write := fun (text : Bytes) => { c.ends 0 [(.output, text)] with input := [] }
    let deleted := fun (set_ : List UInt8) => c.input.filter fun b => !set_.contains b
    match words with
    | [] => c.misused 1 (Text.encode "missing operand")
    | [one] =>
      if has 'd' && !has 's' then write (deleted (first one))
      else if has 's' && !has 'd' then write (Translate.squeeze (first one) c.input)
      else
        let need := if has 'd'
          then "Two strings must be given when both deleting and squeezing repeats.\n"
          else "Two strings must be given when translating.\n"
        c.ends 1 [c.saying (Text.encode "missing operand after " ++ quoted one),
          (.errors, Text.encode need), c.hint]
    | one :: two :: _ =>
      if has 'd' then write (Translate.squeeze (setOf two) (deleted (first one)))
      else
        let from_ := first one
        let new := setOf two
        let new := new ++ List.replicate (from_.length - new.length) (new.getLastD 0)
        let pairs := from_.zip new
        let replaced := c.input.map fun b =>
          ((pairs.reverse.find? fun p => p.1 == b).map Prod.snd).getD b
        write (if has 's' then Translate.squeeze new replaced else replaced)

/-! ## Copies and rows -/

/-- Write the input to files and to the output. -/
def tee (c : Call) : Ran :=
  c.withOptions [⟨'a', "append", .none, true⟩, ⟨'i', "ignore-interrupts", .none, true⟩] 1
    fun given words =>
      let behind := given.any fun g => g.1 == 'a'
      let mode := 0o666 - (0o666 &&& c.world.umask)
      let (files, faults) := words.foldl
        (fun (state : Files.Tree × List (Outlet × Bytes)) word =>
          match state.1.writeFile c.world.cwd word mode behind c.input with
          | .ok files => (files, state.2)
          | .error e =>
            (state.1, state.2 ++ [c.saying (named word ++ Text.encode ": " ++ faultText e)]))
        (c.world.files, [])
      let ran := c.ends (if faults.isEmpty then 0 else 1) (faults ++ [(.output, c.input)])
      { ran with world := { c.world with files }, input := [] }

/-- Write the lines of files, the last first. -/
def tac (c : Call) : Ran :=
  c.withOptions [] 1 fun _ words =>
    c.endsAs <| c.throughFiles (if words = [] then [[dash]] else words)
      (fun r _ text => r.write (linesOf text).reverse.flatten)
      (fun word e =>
        if e = .isADirectory then named word ++ Text.encode ": read error: " ++ faultText e
        else
          Text.encode "failed to open " ++ named.inWords word ++ Text.encode " for reading: "
            ++ faultText e)

/-- The numbers from one to another in steps, so many at most. -/
def rowOf : Nat → Int → Int → Int → List Int
  | 0, _, _, _ => []
  | fuel + 1, first, step, last =>
    if (0 ≤ step ∧ last < first) ∨ (step < 0 ∧ first < last) then []
    else first :: rowOf fuel (first + step) step last

/-- The most numbers of a row. -/
def longestRow : Nat := 100000

/-- The whole number that a word is, with its sign. -/
def signedNumber? (word : Bytes) : Option Int :=
  match word with
  | 0x2D :: digits => (wholeNumber? digits).map fun n => -(n : Int)
  | 0x2B :: digits => (wholeNumber? digits).map fun n => (n : Int)
  | digits => (wholeNumber? digits).map fun n => (n : Int)

/-- Write a row of whole numbers. -/
def seq (c : Call) : Ran :=
  let isNumber := fun (word : Bytes) => (signedNumber? word).isSome
  let words := c.words.takeWhile fun word => !isNumber word
  let numbers := c.words.drop words.length
  let c : Call := { c with words }
  c.withOptions [⟨'s', "separator", .needed, true⟩,
      ⟨'w', "equal-width", .none, true⟩, ⟨'f', "format", .needed, true⟩] 1 fun given words =>
    let words := words ++ numbers
    let separator := ((given.find? fun g => g.1 == 's').bind Prod.snd).getD [0x0A]
    let write := fun (row : List Int) =>
      let texts := row.map fun n => Text.encode (toString n)
      let width := texts.foldl (fun n t => max n t.length) 0
      let texts := if given.any fun g => g.1 == 'w' then texts.map fun t =>
          match t with
          | 0x2D :: ds => 0x2D :: List.replicate (width - t.length) 0x30 ++ ds
          | ds => List.replicate (width - t.length) 0x30 ++ ds
        else texts
      c.ends 0 [(.output, if row = [] then [] else separator.intercalate texts ++ [0x0A])]
    match words.find? fun word => !isNumber word with
    | some word =>
      c.misused 1 (Text.encode "invalid floating point argument: " ++ quoted word)
    | none =>
      match words.filterMap signedNumber? with
      | [] => c.misused 1 (Text.encode "missing operand")
      | [last] => write (rowOf longestRow 1 1 last)
      | [first, last] => write (rowOf longestRow first 1 last)
      | [first, step, last] =>
        if step = 0 then
          c.misused 1 (Text.encode "invalid Zero increment value: " ++ quoted (words.getD 1 []))
        else write (rowOf longestRow first step last)
      | _ => c.misused 1 (Text.encode "extra operand " ++ quoted (words.getD 3 []))

end Handover.Tools
