/-
  Commands about names: variables, functions, other words, and places.
-/
import Handover.Shell.State

namespace Handover.Shell.Builtin

/-! ## Options -/

/-- The letters of the options at the start of some arguments, and the arguments behind them.  Only
    some letters are options. -/
def options (known : Chars) : List Chars → Except Chars (Chars × List Chars)
  | [] => .ok ([], [])
  | word :: rest =>
    match word with
    | ['-', '-'] => .ok ([], rest)
    | '-' :: letters@(_ :: _) =>
      match letters.find? fun c => !known.contains c with
      | some c => .error ("Illegal option -".toList ++ [c])
      | none => (options known rest).map fun r => (letters ++ r.1, r.2)
    | _ => .ok ([], word :: rest)

/-- Do something with the options and the other arguments. -/
def withOptions (known : String) (args : List Chars) (act : Chars → List Chars → Act Unit) :
    Act Unit := do
  match options known.toList args with
  | .ok (letters, args) => act letters args
  | .error message => Act.fail message

/-! ## Writing values -/

/-- A value between quotes. -/
def quoted : Nat → Chars → Chars
  | 0, _ => []
  | fuel + 1, cs =>
    let plain := cs.takeWhile (· != '\'')
    let rest := cs.drop plain.length
    let quotes := rest.takeWhile (· == '\'')
    let rest := rest.drop quotes.length
    '\'' :: plain ++ ['\''] ++ (if quotes.isEmpty then [] else '"' :: quotes ++ ['"'])
      ++ (if rest.isEmpty then [] else quoted fuel rest)

/-- A value as a script would write it. -/
def written (value : Chars) : Chars := quoted (value.length + 1) value

/-- One name comes before another, or is the same. -/
def inOrder : Chars → Chars → Bool
  | [], _ => true
  | _ :: _, [] => false
  | a :: as, b :: bs => if a = b then inOrder as bs else decide (a.toNat < b.toNat)

/-- Write variables with their values. -/
def show_ (before : String) (wanted : Variable → Bool) : Act Unit := do
  let s ← get
  let chosen := (s.bindings.filter wanted).mergeSort fun a b => inOrder a.name b.name
  Act.setStatus 0
  Act.print <| chosen.flatMap fun v =>
    before.toList ++ v.name ++ (match v.value with
      | some value => '=' :: written value
      | none => []) ++ ['\n']

/-! ## Variables -/

/-- The text is the name of a variable. -/
def isName (text : Chars) : Bool := !text.isEmpty && (splitName text).2.isEmpty

/-- The name and the value of an assignment among the arguments. -/
def splitAssignment (arg : Chars) : Chars × Option Chars :=
  let name := arg.takeWhile (· != '=')
  match arg.drop name.length with
  | _ :: value => (name, some value)
  | [] => (name, none)

/-- The text cannot be the name of a variable. -/
def refuseName {α : Type} (name : Chars) : Act α := Act.fail (name ++ ": bad variable name".toList)

/-- What happens besides where a variable is given a value. -/
def noticeChange (name : Chars) : Act Unit :=
  if name = "OPTIND".toList then
    modify fun s => { s with
      optionIndex := max 1 ((((s.valueOf? name).bind number?).getD 1).toNat), optionPlace := 0 }
  else pure ()

/-- Change variables, and give them the values that arguments tell. -/
def declare (f : Variable → Variable) (names : List Chars) : Act Unit := do
  for arg in names do
    let (name, value) := splitAssignment arg
    if !isName name then refuseName name
    match value with
    | some value => Act.assign name value
    | none => pure ()
    noticeChange name
    modify fun s => s.change name f
  Act.setStatus 0

/-- The command `export`. -/
def export_ (args : List Chars) : Act Unit :=
  withOptions "p" args fun letters names =>
    if letters.isEmpty && !names.isEmpty then declare (fun v => { v with exported := true }) names
    else show_ "export " Variable.exported

/-- The command `readonly`. -/
def readonly (args : List Chars) : Act Unit :=
  withOptions "p" args fun letters names =>
    if letters.isEmpty && !names.isEmpty then declare (fun v => { v with readonly := true }) names
    else show_ "readonly " Variable.readonly

/-- Keep a variable for the end of the function. -/
def keep (name : Chars) : Act Unit :=
  modify fun s => { s with kept := (name, s.lookUp? name) :: s.kept }

/-- The command `local`. -/
def local_ (args : List Chars) : Act Unit := do
  if (← get).calls = 0 then Act.fail "not in a function".toList
  for arg in args do
    let (name, value) := splitAssignment arg
    if arg = ['-'] then
      modify fun s => { s with keptSwitches := some (s.keptSwitches.getD s.switches) }
    else
      if !isName name then refuseName name
      keep name
      match value with
      | some value => Act.assign name value
      | none => pure ()
  Act.setStatus 0

/-- The command `unset`. -/
def unset (args : List Chars) : Act Unit :=
  withOptions "fv" args fun letters names => do
    Act.setStatus 0
    for name in names do
      if letters.getLast? = some 'f' then
        modify fun s => { s with functions := s.functions.filter fun f => f.1 != name }
      else
        if !isName name then refuseName name
        if ((← get).lookUp? name).any Variable.readonly then
          Act.fail (name ++ ": is read only".toList)
        modify fun s => s.forget name

/-! ## Switches -/

/-- Turn a switch that has a letter. -/
def turnLetter (value : Bool) (letter : Char) : Act Unit := do
  match Switch.ofLetter? letter with
  | some switch => modify fun s => { s with switches := Switch.turn switch value s.switches }
  | none => Act.fail ("Illegal option -".toList ++ [letter])

/-- Turn a switch that has a name, or show them all. -/
def turnName (value : Bool) (name : Option Chars) : Act Unit := do
  match name with
  | none => do
    let on := (← get).switches
    Act.print (if value then Switch.shown on else Switch.asCommands on)
  | some name =>
    match Switch.ofName? name with
    | some switch => modify fun s => { s with switches := Switch.turn switch value s.switches }
    | none => Act.fail ("Illegal option -o ".toList ++ name)

/-- Turn switches as the letters of a word tell; the names are taken from the words behind it. -/
def turnLetters (value : Bool) : Chars → List Chars → Act (List Chars)
  | [], rest => return rest
  | 'o' :: letters, rest => do
    turnName value rest.head?
    turnLetters value letters (rest.drop 1)
  | letter :: letters, rest => do
    turnLetter value letter
    turnLetters value letters rest

/-- Read the words of `set`.  The answer is the new parameters, if there are any. -/
def setWords : Nat → List Chars → Act (Option (List Chars))
  | 0, _ | _, [] => return none
  | fuel + 1, word :: rest =>
    match word with
    | ['-'] => do
      modify fun s => { s with
        switches := Switch.turn .xtrace false (Switch.turn .verbose false s.switches) }
      return if rest.isEmpty then none else some rest
    | ['-', '-'] => return some rest
    | '-' :: letters => do setWords fuel (← turnLetters true letters rest)
    | '+' :: letters => do setWords fuel (← turnLetters false letters rest)
    | _ => return some (word :: rest)

/-- Give up what the switches ask for and what needs a terminal. -/
def settleSwitches : Act Unit := do
  let s ← get
  if s.has .monitor then
    Act.complain "can\x27t access tty; job control turned off".toList
    modify fun s => { s with switches := Switch.turn .monitor false s.switches }

/-- The command `set`. -/
def set_ (args : List Chars) : Act Unit := do
  if args.isEmpty then show_ "" fun v => v.value.isSome
  else
    let parameters ← setWords (args.length + 1) args
    settleSwitches
    match parameters with
    | some parameters =>
      modify fun s => { s with parameters, optionIndex := 1, optionPlace := 0 }
    | none => pure ()
    Act.setStatus 0

/-- The command `shift`. -/
def shift (args : List Chars) : Act Unit := do
  let n ← match args with
    | [] => pure 1
    | arg :: _ =>
      match number? arg with
      | some n => if 0 ≤ n then pure n.toNat else Act.fail ("Illegal number: ".toList ++ arg)
      | none => Act.fail ("Illegal number: ".toList ++ arg)
  let s ← get
  if n ≤ s.parameters.length then
    set { s with parameters := s.parameters.drop n, optionIndex := 1, optionPlace := 0 }
    Act.setStatus 0
  else Act.fail "can't shift that many".toList

/-! ## Options of scripts -/

/-- Note what `getopts` has found. -/
def noteOption (name letter : Chars) (value : Option Chars) (place within : Nat) (status : Nat) :
    Act Unit := do
  match value with
  | some value => Act.assign "OPTARG".toList value
  | none => modify fun s => s.forget "OPTARG".toList
  Act.assign "OPTIND".toList (digitsOf 10 place)
  modify fun s => { s with optionIndex := place, optionPlace := within }
  if !isName name then refuseName name
  Act.assign name letter
  Act.setStatus status

/-- The letter is an option: whether it takes a value. -/
def takesValue? (letters : Chars) (c : Char) : Option Bool :=
  match letters with
  | [] => none
  | d :: rest => if c = d ∧ c ≠ ':' then some (rest.head? == some ':') else takesValue? rest c

/-- The next option in some words. -/
def nextOption (letters name : Chars) (words : List Chars) : Act Unit := do
  let s ← get
  let place := s.optionIndex
  let within := s.optionPlace
  let current := if 2 ≤ place ∧ within != 0 then ((words[place - 2]?).getD []).drop within else []
  let isNew := current.isEmpty
  let word := if isNew then (words[place - 1]?).getD [] else current
  match isNew, word with
  | true, ['-'] | true, [] => finish place
  | true, ['-', '-'] => finish (place + 1)
  | true, '-' :: rest => take place (place + 1) rest 1
  | true, _ => finish place
  | false, rest => take place place rest within
where
  /-- There is no further option. -/
  finish (place : Nat) : Act Unit := do
    Act.assign "OPTIND".toList (digitsOf 10 place)
    modify fun s => { s with optionIndex := place, optionPlace := 0 }
    if !isName name then refuseName name
    Act.assign name ['?']
    Act.setStatus 1
  /-- Take the letter at the start of what is left of a word. -/
  take (_before next : Nat) (rest : Chars) (within : Nat) : Act Unit := do
    match rest with
    | [] => finish next
    | c :: rest =>
      let quiet := letters.head? == some ':'
      let place := if rest.isEmpty then 0 else within + 1
      match takesValue? letters c with
      | none =>
        if quiet then noteOption name ['?'] (some [c]) next place 0
        else
          Act.write 2 ("Illegal option -".toList ++ c :: ['\n'])
          noteOption name ['?'] none next place 0
      | some false => noteOption name [c] (some []) next place 0
      | some true =>
        if !rest.isEmpty then noteOption name [c] (some rest) next 0 0
        else
          match words[next - 1]? with
          | some value => noteOption name [c] (some value) (next + 1) 0 0
          | none =>
            if quiet then noteOption name [':'] (some [c]) next 0 0
            else
              Act.write 2 ("No arg for -".toList ++ c :: " option\n".toList)
              noteOption name ['?'] none next 0 0

/-- The command `getopts`. -/
def getopts (args : List Chars) : Act Unit := do
  match args with
  | [letters, name] => nextOption letters name (← get).parameters
  | letters :: name :: words => nextOption letters name words
  | _ => Act.fail "Usage: getopts optstring var [arg...]".toList

/-! ## Other words -/

/-- The command `alias`. -/
def alias_ (args : List Chars) : Act Unit := do
  let s ← get
  Act.setStatus 0
  let line := fun (a : Chars × Chars) => a.1 ++ '=' :: written a.2 ++ ['\n']
  if args.isEmpty then Act.print ((State.inRows Prod.fst s.aliases).flatMap line)
  for arg in args do
    match splitAssignment arg with
    | (name, some text) =>
      let set_ := fun (old : List (Chars × Chars)) =>
        if old.any fun a => a.1 == name then old.map fun a => (a.1, if a.1 = name then text else a.2)
        else old ++ [(name, text)]
      modify fun s => { s with aliases := set_ s.aliases }
    | (name, none) =>
      match s.aliases.find? fun a => a.1 == name with
      | some a => Act.print (line a)
      | none => do
        Act.write 2 ("alias: ".toList ++ name ++ " not found\n".toList)
        Act.setStatus 1

/-- The command `unalias`. -/
def unalias (args : List Chars) : Act Unit :=
  withOptions "a" args fun letters names => do
    Act.setStatus 0
    if letters.contains 'a' then modify fun s => { s with aliases := [] }
    else
      for name in names do
        if (← get).aliases.any fun a => a.1 == name then
          modify fun s => { s with aliases := s.aliases.filter fun a => a.1 != name }
        else
          Act.write 2 ("unalias: ".toList ++ name ++ " not found\n".toList)
          Act.setStatus 1

/-! ## Places -/

/-- The root that a path begins with.  Two separators are not the same as one. -/
def rootOf (path : Chars) : Chars :=
  match path with
  | '/' :: '/' :: rest => if rest.head? = some '/' then ['/'] else ['/', '/']
  | _ => ['/']

/-- A path from a directory, made from the text alone. -/
def joined (directory path : Chars) : Chars :=
  let pieces := fun (p : Chars) => (Path.pieces (Chars.toBytes p)).map Chars.ofBytes
  let isWhole := path.head? = some '/'
  let start := if isWhole then [] else pieces directory
  let done := (start ++ pieces path).foldl
    (fun (done : List Chars) piece =>
      if piece = [] ∨ piece = ['.'] then done
      else if piece = ['.', '.'] then done.tail
      else piece :: done)
    []
  rootOf (if isWhole then path else directory) ++ (['/'] : Chars).intercalate done.reverse

/-- The directory of a path, if it is one. -/
def directoryAt? (s : State) (path : Chars) : Option Files.Location :=
  match s.world.files.status s.world.cwd (Chars.toBytes path) with
  | .ok (at_, .directory) => some at_
  | _ => none

/-- Go to a directory.  The answer is whether that was possible. -/
def goTo (physical : Bool) (path : Chars) : Act Bool := do
  let s ← get
  let target := if physical then path else joined s.directory path
  match directoryAt? s target with
  | none => return false
  | some at_ =>
    let here := if physical then Chars.ofBytes (Machine.World.pathOf at_) else target
    set { s with world.cwd := at_, directory := here }
    Act.assign "OLDPWD".toList s.directory
    Act.assign "PWD".toList here
    modify fun s => ["OLDPWD", "PWD"].foldl
      (fun s name => s.change name.toList fun v => { v with exported := true }) s
    return true

/-- Go to the first of some directories that is there, and say where that is unless it is the plain
    one. -/
def goToFirst (physical said : Bool) (path : Chars) : List Chars → Act Unit
  | [] => Act.fail ("can't cd to ".toList ++ path)
  | dir :: rest => do
    let whole := if dir.isEmpty then path else dir ++ '/' :: path
    if ← goTo physical whole then
      Act.setStatus 0
      if said || !dir.isEmpty then Act.print ((← get).directory ++ ['\n'])
    else goToFirst physical said path rest

/-- The parts of a list with colons between them. -/
def colonParts (cs : Chars) : List Chars :=
  (Machine.splitAt Machine.colon (Chars.toBytes cs)).map Chars.ofBytes

/-- The command `cd`. -/
def cd (args : List Chars) : Act Unit :=
  withOptions "LP" args fun letters args => do
    let s ← get
    let physical := letters.getLast? = some 'P'
    let (path, said) := match args with
      | [] => ((s.valueOf? "HOME".toList).getD [], false)
      | ['-'] :: _ => ((s.valueOf? "OLDPWD".toList).getD [], true)
      | path :: _ => (path, false)
    let isFixed := path.head? = some '/' || path = ['.'] || path = ['.', '.']
      || ['.', '/'].isPrefixOf path || ['.', '.', '/'].isPrefixOf path || path.isEmpty
    let places := if isFixed then []
      else
        match s.valueOf? "CDPATH".toList with
        | some text => colonParts text
        | none => []
    goToFirst physical said (if path.isEmpty then ['.'] else path) (places ++ [[]])

/-- The command `pwd`. -/
def pwd (args : List Chars) : Act Unit :=
  withOptions "LP" args fun letters _ => do
    let s ← get
    Act.setStatus 0
    Act.print ((if letters.getLast? = some 'P' then Chars.ofBytes s.world.cwdPath
      else s.directory) ++ ['\n'])

/-! ## Bits of new files -/

/-- Three permission bits in letters. -/
def bitLetters (bits : Nat) : Chars :=
  (if bits &&& 4 != 0 then ['r'] else []) ++ (if bits &&& 2 != 0 then ['w'] else [])
    ++ (if bits &&& 1 != 0 then ['x'] else [])

/-- The command `umask`. -/
def umask (args : List Chars) : Act Unit :=
  withOptions "S" args fun letters args => do
    let mask := (← get).world.umask
    Act.setStatus 0
    match args with
    | [] =>
      let digits := digitsOf 8 mask
      if letters.isEmpty then
        Act.print (List.replicate (4 - digits.length) '0' ++ digits ++ ['\n'])
      else
        let part := fun (n : Nat) => bitLetters ((0o777 - mask) / n % 8)
        Act.print ("u=".toList ++ part 64 ++ ",g=".toList ++ part 8 ++ ",o=".toList ++ part 1 ++ ['\n'])
    | arg :: _ =>
      if !arg.isEmpty && arg.all fun c => '0' ≤ c ∧ c ≤ '7' then
        let value := arg.foldl (fun n c => n * 8 + (c.toNat - '0'.toNat)) 0
        modify fun s => { s with world.umask := value % 0o1000 }
      else if arg.head?.any Char.isDigit then Act.fail ("Illegal number: ".toList ++ arg)
      else
        match symbolic? mask arg with
        | some value => modify fun s => { s with world.umask := value }
        | none => Act.fail ("Illegal mode: ".toList ++ arg)
where
  /-- The bits that are left out after changes in letters. -/
  symbolic? (mask : Nat) (text : Chars) : Option Nat :=
    (Machine.splitAt 0x2C (Chars.toBytes text)).map Chars.ofBytes |>.foldlM
      (fun (mask : Nat) (change : Chars) =>
        let who := change.takeWhile fun c => "ugoa".toList.contains c
        match change.drop who.length with
        | sign :: letters =>
          let bits := letters.foldl
            (fun n c => n ||| (if c = 'r' then 4 else if c = 'w' then 2 else if c = 'x' then 1 else 0))
            0
          if !letters.all (fun c => "rwx".toList.contains c) then none
          else
            let factors := (if who.isEmpty ∨ who.contains 'a' then [64, 8, 1]
              else (if who.contains 'u' then [64] else []) ++ (if who.contains 'g' then [8] else [])
                ++ (if who.contains 'o' then [1] else []))
            let step := fun (given : Nat) (n : Nat) =>
              let old := given / n % 8
              let new := if sign = '=' then bits else if sign = '+' then old ||| bits
                else old &&& (7 - bits)
              given - old * n + new * n
            if sign = '=' ∨ sign = '+' ∨ sign = '-' then
              some (0o777 - factors.foldl step (0o777 - mask))
            else none
        | [] => none)
      mask

end Handover.Shell.Builtin
