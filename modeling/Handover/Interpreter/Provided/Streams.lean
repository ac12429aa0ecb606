/-
  Streams: what programs read from and write to.

  A stream leads to the input, to one of the two outputs, to a file, or to memory.  A stream of texts
  writes its texts as UTF-8, and takes all ends of lines for one.  What is written to a file stands
  in it at once.
-/
import Handover.Interpreter.Provided.Texts

namespace Handover.Interpreter

open CodePoints (ofString)

/-! ## Names of modules -/

/-- The value of a name in a module that has been loaded. -/
def moduleValue? (module name : String) : Act (Option Value) := do
  match ← name? (← get).modules module with
  | some m =>
    match ← objectOf m with
    | some (.module _ names) => name? names name
    | _ => return none
  | none => return none

/-! ## Content -/

/-- The text with one kind of line end. -/
def unified : CodePoints → CodePoints
  | 0x0D :: 0x0A :: rest => 0x0A :: unified rest
  | 0x0D :: rest => 0x0A :: unified rest
  | n :: rest => n :: unified rest
  | [] => []

/-- The bytes as code points. -/
def rawText (bytes : Bytes) : CodePoints := bytes.map UInt8.toNat

/-- The content with a part put at a place; a gap before it is filled up with zeros. -/
def overwritten (content part : CodePoints) (place : Nat) : CodePoints :=
  content.take place ++ List.replicate (place - content.length) 0 ++ part
    ++ content.drop (place + part.length)

/-- The bytes of a text that is written to a channel. -/
def outgoing (channel : Channel) (text : CodePoints) : Act Bytes :=
  match channel with
  | .errors => encodeText .utf8 .backslashReplace text
  | .output => encodeText .utf8 .surrogateEscape text
  | _ => encodeText .utf8 .strict text

/-- Fetch all of the input. -/
def fetchInput : Act Unit :=
  modify fun s => { s with fetched := s.fetched ++ s.input, input := [] }

/-! ## Writing -/

/-- The operation is not possible on the stream. -/
def unsupported {α : Type} (what : String) : Act α := fail "UnsupportedOperation" what

/-- Put the content of a stream into its file. -/
def storeFile (path : Path) (bytes : Bytes) : Act Unit := do
  let w := (← get).world
  match w.files.writeFile w.cwd path 0o644 false bytes with
  | .ok files => modify fun s => { s with world := { w with files } }
  | .error e => failSystem e [.ofPath path]

/-- Write to a stream. -/
def writeStream (address : Nat) (s : Stream) (v : Value) : Act Value := do
  if s.closed then fail "ValueError" "I/O operation on closed file."
  let kind ← kindName v
  let part ← match s.binary, ← plain v, ← bytes? v with
    | false, .text t, _ => pure t
    | false, _, _ => fail "TypeError" s!"write() argument must be str, not {kind}"
    | true, _, some b => pure (rawText b)
    | true, _, none => fail "TypeError" s!"a bytes-like object is required, not '{kind}'"
  let bytes ← if s.binary then pure (part.map UInt8.ofNat) else outgoing s.channel part
  match s.channel with
  | .input => unsupported "not writable"
  | .output => do
    changeOutput fun o => if s.binary then o.keep bytes else o.keepText bytes
    if (← get).unbuffered then changeOutput Outgoing.flushed
  | .errors => do
    if s.binary then changeErrors fun o => o.keep bytes else writeErrors bytes
    if (← get).unbuffered then changeErrors Outgoing.flushed
  | .memory =>
    replace address (.stream { s with
      content := overwritten s.content part s.position
      position := s.position + part.length })
  | .file path =>
    if !s.writable then unsupported "not writable"
    let content := overwritten s.content part s.position
    replace address (.stream { s with content, position := s.position + part.length })
    storeFile path (← if s.binary then pure (content.map UInt8.ofNat) else outgoing s.channel content)
  return .ofNat part.length

/-! ## Reading -/

/-- What is left to be read, and how the rest of it is kept. -/
def remaining (address : Nat) (s : Stream) : Act (CodePoints × (CodePoints → Act Unit)) := do
  if s.closed then fail "ValueError" "I/O operation on closed file."
  match s.channel with
  | .input =>
    fetchInput
    let bytes := (← get).fetched
    let keep := fun (bytes : Bytes) => modify fun (t : State) => { t with fetched := bytes }
    if s.binary then return (rawText bytes, fun rest => keep (rest.map UInt8.ofNat))
    else
      let text ← decodeBytes .utf8 .surrogateEscape bytes
      return (unified text, fun rest => do keep (← encodeText .utf8 .surrogateEscape rest))
  | .output | .errors => unsupported "not readable"
  | .memory | .file _ =>
    if s.writable && s.channel != .memory && s.content.isEmpty then unsupported "not readable"
    return (s.content.drop s.position, fun rest =>
      replace address (.stream { s with position := s.content.length - rest.length }))

/-- What is read of a stream: a text or bytes. -/
def readValue (s : Stream) (part : CodePoints) : Value :=
  if s.binary then .bytes (part.map UInt8.ofNat) else .text part

/-- The first line of a text with its end. -/
def firstLineOf (text : CodePoints) : CodePoints :=
  let line := text.takeWhile (· != 0x0A)
  text.take (line.length + 1)

/-- The lines of a text with their ends. -/
def linesOf : Nat → CodePoints → List CodePoints
  | 0, _ | _, [] => []
  | fuel + 1, text =>
    let line := firstLineOf text
    line :: linesOf fuel (text.drop line.length)

/-! ## Methods -/

/-- The number of the channel of a stream. -/
def channelNumber (s : Stream) : Act Value :=
  match s.channel with
  | .input => return .int 0
  | .output => return .int 1
  | .errors => return .int 2
  | .file _ => return .int 3
  | .memory => unsupported "fileno"

/-- Write what is kept back for a stream. -/
def flushStream (s : Stream) : Act Unit :=
  let flush := if s.binary then Outgoing.flushedBytes else Outgoing.flushed
  match s.channel with
  | .output => changeOutput flush
  | .errors => changeErrors flush
  | _ => pure ()

/-- The greatest number of lines. -/
def mostLines : Nat := 10000000

/-- Move the place of a stream. -/
def seekStream (ev : Evaluator) (address : Nat) (s : Stream) (g : Given) : Act Value := do
  let offset ← intOf ev g.first
  let base : Int := match (g.at_ 1).int? with
    | some 1 => s.position
    | some 2 => s.content.length
    | _ => 0
  let place := (base + offset).toNat
  match s.channel with
  | .memory | .file _ =>
    replace address (.stream { s with position := place })
    return .ofNat place
  | _ => unsupported "underlying stream is not seekable"

/-- Carry out a method of a stream. -/
def streamMethod (ev : Evaluator) (address : Nat) (s : Stream) (method : String) (g : Given) :
    Act Value := do
  match method with
  | "write" => writeStream address s g.first
  | "writelines" =>
    for v in ← itemsOf ev g.first do
      match ← object? address with
      | some (.stream s) => let _ ← writeStream address s v
      | _ => pure ()
    return .none
  | "read" | "read1" =>
    let (text, keep) ← remaining address s
    let n ← intOr ev g.first (-1)
    let part := if n < 0 then text else text.take n.toNat
    keep (text.drop part.length)
    return readValue s part
  | "readline" =>
    let (text, keep) ← remaining address s
    let line := firstLineOf text
    let n ← intOr ev g.first (-1)
    let line := if n < 0 then line else line.take n.toNat
    keep (text.drop line.length)
    return readValue s line
  | "readlines" =>
    let (text, keep) ← remaining address s
    keep []
    makeList ((linesOf mostLines text).map (readValue s))
  | "__next__" =>
    let (text, keep) ← remaining address s
    if text.isEmpty then failWith "StopIteration" []
    let line := firstLineOf text
    keep (text.drop line.length)
    return readValue s line
  | "__iter__" | "__enter__" => return .object address
  | "__exit__" | "close" =>
    flushStream s
    replace address (.stream { s with closed := true })
    return .none
  | "flush" =>
    if s.closed then fail "ValueError" "I/O operation on closed file."
    flushStream s
    return .none
  | "fileno" => channelNumber s
  | "isatty" => return .bool false
  | "readable" => return .bool (s.channel = .input || s.channel = .memory || !s.writable)
  | "writable" =>
    return .bool (s.channel = .output || s.channel = .errors || s.channel = .memory || s.writable)
  | "seekable" =>
    return .bool (match s.channel with
      | .memory | .file _ => true
      | _ => false)
  | "seek" => seekStream ev address s g
  | "tell" => return .ofNat s.position
  | "truncate" =>
    let size ← intOr ev g.first s.position
    let content := s.content.take size.toNat
    replace address (.stream { s with content })
    match s.channel with
    | .file path => storeFile path (content.map UInt8.ofNat)
    | _ => pure ()
    return .int size
  | "getvalue" | "getbuffer" => return readValue s s.content
  | "reconfigure" => return .none
  | "detach" => make (.stream { s with binary := true })
  | m => fail "AttributeError" s!"stream object has no attribute '{m}'"

/-! ## Opening -/

/-- The channel of a number. -/
def channelOf? (n : Int) : Option Channel :=
  if n = 0 then some .input
  else if n = 1 then some .output
  else if n = 2 then some .errors
  else none

/-- Open a file. -/
def openFile (ev : Evaluator) (g : Given) : Act Value := do
  let mode ← match g.get 1 "mode" with
    | .none => pure "r"
    | v => nameArgument "open() argument 'mode'" v
  let has := fun (c : Char) => mode.toList.contains c
  let binary := has 'b'
  let writable := has 'w' || has 'a' || has 'x' || has '+'
  if !(has 'r' || has 'w' || has 'a' || has 'x') then fail "ValueError" s!"invalid mode: '{mode}'"
  let file := g.get 0 "file"
  match (← plain file).int? with
  | some n =>
    match channelOf? n with
    | some channel => make (.stream { channel, binary, writable })
    | none => failSystem (.code 9) []
  | none =>
    let shownPath ← pathValue ev file
    let path ← pathBytes ev file
    let w := (← get).world
    let (coding, policy) ← codingOf (g.get 3 "encoding") (g.get 4 "errors")
    let content ← match w.files.status w.cwd path with
      | .ok (_, .file _ content) =>
        if has 'x' then failSystem .alreadyExists [shownPath] else pure content
      | .ok (_, .directory) => failSystem .isADirectory [shownPath]
      | .ok _ => pure []
      | .error e =>
        if e = .notFound ∧ (has 'w' || has 'a' || has 'x') then pure []
        else failSystem e [shownPath]
    let content := if has 'w' || has 'x' then [] else content
    if has 'w' || has 'x' || has 'a' then
      match w.files.writeFile w.cwd path 0o644 false content with
      | .ok files => modify fun s => { s with world := { w with files } }
      | .error e => failSystem e [shownPath]
    let text ← if binary then pure (rawText content)
      else do
        let text ← decodeBytes coding policy content
        pure (match g.get 5 "newline" with
          | .none => unified text
          | _ => text)
    make (.stream
      { channel := .file path, binary, writable, content := text
        position := if has 'a' then text.length else 0 })

/-! ## Printing -/

/-- A separator or an end that an argument tells. -/
def separatorOf (what default : String) (v : Value) : Act CodePoints := do
  match ← plain v with
  | .none => return ofString default
  | .text t => return t
  | _ =>
    let kind ← kindName v
    fail "TypeError" s!"{what} must be None or a string, not {kind}"

/-- Print values. -/
def printValues (ev : Evaluator) (g : Given) : Act Value := do
  let target ← match (g.named? "file").getD .none with
    | .none => do pure ((← moduleValue? "sys" "stdout").getD .none)
    | v => pure v
  let separator ← separatorOf "sep" " " ((g.named? "sep").getD .none)
  let ending ← separatorOf "end" "\n" ((g.named? "end").getD .none)
  match g.byName.find? fun e => !(["file", "sep", "end", "flush"].contains e.1) with
  | some (n, _) => fail "TypeError" s!"print() got an unexpected keyword argument '{n}'"
  | none => pure ()
  if target.isNone then return .none
  let write ← attributeOf ev target "write"
  let put := fun (t : CodePoints) => do
    let _ ← ev.call write [.text t] []
  for (v, k) in g.byPlace.zipIdx do
    if k != 0 then put separator
    put (← textOf ev v)
  put ending
  if ← truth ev ((g.named? "flush").getD .none) then
    let _ ← ev.call (← attributeOf ev target "flush") [] []
  return .none

/-! ## Readings -/

example : unified (ofString "a\r\nb\rc") = ofString "a\nb\nc" := by decide
example : overwritten [1, 2, 3] [9] 1 = [1, 9, 3] := by decide

end Handover.Interpreter
