import CoroBridge.Shell.Program.Perl.Machine

/-!
# Command language: the language of `perl`, files

How programs for `perl` read and write, and how they run other programs.

* `Perl.Run.emit`              a text written to a file;
* `Perl.Run.lineOf`            the next line of a file;
* `Perl.Run.openFile`          a file opened in some way;
* `Perl.Run.closeFile`         a file closed;
* `Perl.Run.command`           another program run.
-/

namespace CoroBridge
namespace Shell
namespace Perl

namespace Run

/-! ## writing -/

def outputSize : Nat := 8192

def putPiece (f : Outflow) (t : Text) : Act (Option Blocked × Outflow) := do
  let size := f.size + t.length
  if size < outputSize then return (none, { f with pending := t :: f.pending, size := size })
  else
    let whole := (t :: f.pending).reverse.flatten
    let k := size / outputSize * outputSize
    match ← Act.put f.descriptor (whole.take k) with
    | none => return (none, { f with pending := [whole.drop k], size := size - k })
    | b => return (b, { f with pending := [], size := 0 })

/-- the number of a reason why nothing can be written -/
def blockedNumber : Blocked → Nat
  | .closed => 9
  | .unwritable => 9
  | .full => 28
  | .broken => 32

def file? (name : Text) : Run (Option OpenFile) := return (← seen (·.files)).lookup name

def setFile (name : Text) (f : OpenFile) : Run Unit :=
  modify fun m => { m with files := Shell.put name f m.files }

/-- what hinders the writing of a file, if anything does -/
def settle (b : Option Blocked) : Run Bool := do
  match b with
  | none => return true
  | some b =>
    setFault (blockedNumber b) b.message
    return false

/-- what waits to be written to a file written -/
def flush (name : Text) : Run Bool := do
  match ← file? name with
  | some f =>
    match f.output with
    | some o =>
      let (b, o) ← act o.flush
      setFile name { f with output := some (if b.isSome then { o with pending := [], size := 0 } else o) }
      settle b
    | none => return true
  | none => return true

def flushAll : Run Unit := do
  for f in (← seen (·.files)) do
    if f.2.output.isSome then discard (flush f.1)

def warnText (t : Text) : Run Unit := utter t

def emit (by_ name t : Text) : Run Bool := do
  match ← file? name with
  | none =>
    setFault 9 "Bad file descriptor"
    return false
  | some f =>
    let wide := t.any fun c => 255 < c.toNat
    if wide && !f.encoded then warnText (← complaint ("Wide character in " ++ by_))
    let t := if wide || f.encoded then octetsOf t else t
    match f.cell, f.output with
    | some c, _ =>
      store c (.text ((← load c).toText ++ t))
      return true
    | none, some o =>
      if name = "STDERR".toList then settle (← act (Act.put o.descriptor t))
      else
        let (b, o) ← act (putPiece o t)
        setFile name { f with output := some o }
        if f.prompt && b.isNone then flush name else settle b
    | none, none =>
      setFault 9 "Bad file descriptor"
      return false

/-! ## reading -/

/-- the first paragraph of a text, and what follows; one at the end need not be complete -/
def paragraph? (t : Text) : Option (Text × Text) :=
  match cutAt? "\n\n" (t.dropWhile (· == '\n')) with
  | some (p, r) =>
    match r.dropWhile (· == '\n') with
    | [] => none
    | r => some (p ++ "\n\n".toList, r)
  | none => none

/-- how the next line is found in what was read -/
def cutLine (separator : Value) : Text → Option (Text × Text) :=
  match separator with
  | .cell _ => fun t => some (t.take 1, t.drop 1)
  | v =>
    match v.toText with
    | [] => paragraph?
    | [c] => pieceWith c
    | w => fun t => (cutAt? w t).map fun p => (p.1 ++ w, p.2)

def decoded (t : Text) : Text := Utf8.decodeLossy (bytes t)

def nextLine (f : OpenFile) (input : Inflow) : Run (Option Text × OpenFile) := do
  let separator ← sign '/'
  let show_ := fun (t : Text) => if f.encoded then decoded t else t
  match separator with
  | .absent =>
    if f.ended then return (none, f)
    else
      match ← act input.all with
      | (.ok t, input) =>
        let f := { f with input := some input, ended := true }
        if t = [] ∧ f.lines ≠ 0 then return (none, f)
        else return (some (show_ t), { f with lines := f.lines + 1 })
      | (.error e, input) =>
        setPathFault e
        return (none, { f with input := some input, ended := true })
  | .cell c =>
    let size := max 1 (← load c).toCount
    let rec fill : Nat → Inflow → Run Inflow
      | 0, i => return i
      | n + 1, i => do
        if i.ended ∨ size ≤ i.buffer.length then return i
        else
          match ← act (Act.take i.descriptor bufferSize) with
          | .ok [] => return { i with ended := true }
          | .ok t => fill n { i with buffer := i.buffer ++ t }
          | .error _ => return { i with ended := true }
    let i ← fill countless input
    let f := { f with input := some { i with buffer := i.buffer.drop size } }
    if i.buffer = [] then return (none, f)
    else return (some (show_ (i.buffer.take size)), { f with lines := f.lines + 1 })
  | v =>
    let (r, input) ← act (input.next (cutLine v))
    let f := { f with input := some input }
    match r with
    | .ok (some t) =>
      let t := if v.toText = [] then
          let t := t.dropWhile (· == '\n')
          if input.ended ∧ input.buffer = [] then
            let core := (t.reverse.dropWhile (· == '\n')).reverse
            core ++ (t.drop core.length).take 2
          else t
        else t
      if t = [] then return (none, f)
      else return (some (show_ t), { f with lines := f.lines + 1 })
    | .ok none => return (none, f)
    | .error e =>
      setPathFault e
      return (none, f)

def plainLine (name : Text) : Run (Option Text) := do
  match ← file? name with
  | some f =>
    match f.input with
    | some input =>
      let (t, f) ← nextLine f input
      setFile name f
      if t.isSome then
        modify fun m => { m with lastRead := some name }
        setSign '.' (.whole f.lines)
      return t
    | none => return none
  | none => return none

/-! ## files that are opened -/

/-- the channel of a descriptor or of a file that is open -/
def channelOf (name : Text) : Run (Option Nat) := do
  match number? name with
  | some n => act (Act.channelOf n)
  | none =>
    match ← file? name with
    | none => return none
    | some f =>
      match f.output, f.input with
      | some o, _ => act (Act.channelOf o.descriptor)
      | none, some i => act (Act.channelOf i.descriptor)
      | none, none => return none

def descriptorFor (name : Text) : Run Nat := do
  match String.ofList name with
  | "STDIN" => return 0
  | "STDOUT" => return 1
  | "STDERR" => return 2
  | _ => act Act.ownDescriptor

def closeFile (name : Text) : Run Bool := do
  match ← file? name with
  | none => return false
  | some f =>
    let good ← flush name
    for d in (f.output.map Outflow.descriptor).toList ++ (f.input.map Inflow.descriptor).toList do
      act (Act.close d)
    modify fun m => { m with files := m.files.filter (·.1 != name) }
    match f.process with
    | some id =>
      let e ← act (Act.join id)
      let status := match e with
        | .status n => n * 256
        | .signal n => n
      setSign '?' (.whole status)
      return good && status == 0
    | none => return good

/-- a file that reads from or writes to a channel -/
def setChannel (name : Text) (reads writes encoded : Bool) (k : Nat) : Run Unit := do
  match ← file? name with
  | some _ => discard (flush name)
  | none => pure ()
  let n ← descriptorFor name
  act (Act.connect n k)
  setFile name { OpenFile.none_ with
    input := if reads then some (.of n) else none
    output := if writes then some (.of n) else none
    encoded := encoded }

def modes : List Text :=
  (["+>>", "+<", "+>", ">>", "<&=", ">&=", "<&", ">&", "-|", "|-", "<", ">"] :
    List String).map String.toList

/-- the variables that other programs see, taken over from those of the program -/
def exportAll : Run Unit := do
  match (← seen (·.globals)).lookup (.hash, "ENV".toList) with
  | none => return
  | some id =>
    let ps ← hashValues id
    act (modify fun s =>
      { s with bindings := ps.map fun p => (p.1, ⟨some p.2.toText, true, false⟩) })

def shellChars : Text := "$&*(){}[]'\";\\|?<>~\x60\n".toList

/-- the program and the arguments that a command is, if no shell is needed for it -/
def wordsOf? (t : Text) : Option (List Text) :=
  let words := (t.splitBy fun a b => isSpace a == isSpace b).filter fun w => !w.all isSpace
  let assigns : Bool := (words.headD []).contains '='
  if t.any shellChars.contains || assigns || words.head? == some "exec".toList then none
  else some words

/-- another program, as what a process does up to its end -/
def commandAct (h : Helpers) (words : List Text) : Act Unit := do
  let direct := fun (name : Text) (args : List Text) => do
    match ← h.program name args with
    | none => pure ()
    | some _ => Act.exit 255
  match words with
  | [t] =>
    match wordsOf? t with
    | some (name :: args) => direct name args
    | some [] => Act.exit 0
    | none => h.shell t
  | name :: args => direct name args
  | [] => Act.exit 0

/-- whether the program of a command is there -/
def isThere (words : List Text) : Run Bool := do
  let name := match words with
    | [t] => (wordsOf? t).bind List.head?
    | name :: _ => some name
    | [] => none
  match name with
  | none => return true
  | some name =>
    match ← act (Act.found name) with
    | .ok _ => return true
    | .error f =>
      setPathFault f
      return false

def statusValue : Ending → Nat
  | .status n => n * 256
  | .signal n => n

def command (h : Helpers) (words : List Text) : Run Value := do
  flushAll
  exportAll
  if ← isThere words then
    let id ← act (Act.fork Act.withoutOwn (commandAct h words))
    let status := statusValue (← act (Act.join id))
    setSign '?' (.whole status)
    return .whole status
  else
    setSign '?' (.whole (-1))
    return .whole (-1)

def outputOf (h : Helpers) (t : Text) : Run (Option Text) := do
  flushAll
  exportAll
  if ← isThere [t] then
    let (input, id) ← act (Act.inflowFrom (commandAct h [t]))
    let (r, _) ← act input.all
    act (Act.close input.descriptor)
    setSign '?' (.whole (statusValue (← act (Act.join id))))
    return some (r.toOption.getD [])
  else
    setSign '?' (.whole (-1))
    return none

def asksEncoding (t : Text) : Bool :=
  let t := t.map Char.toLower
  (cutAt? "utf8" t).isSome || (cutAt? "utf-8" t).isSome

/-- a file opened in some way: what it is, a value that may take its place, and further words of a
command -/
def openIn (h : Helpers) (name mode layers target : Text) (cell : Option Nat) (more : List Text) :
    Run Bool := do
  let encoded := asksEncoding layers
  let opened := fun (d : Direction) (reads writes : Bool) => do
    match ← act (Act.openAt d false target) with
    | .ok k =>
      setChannel name reads writes encoded k
      return true
    | .error f =>
      setPathFault f
      return false
  let same := fun (reads writes : Bool) => do
    match ← channelOf target with
    | some k =>
      discard (flush target)
      setChannel name reads writes encoded k
      return true
    | none =>
      setFault 9 "Bad file descriptor"
      return false
  match String.ofList mode, cell with
  | "<", some c =>
    let t ← load c
    setFile name { OpenFile.none_ with
      input := some ⟨0, t.toText, true⟩, encoded := encoded }
    return true
  | ">", some c =>
    store c (.text [])
    setFile name { OpenFile.none_ with cell := some c, encoded := encoded }
    return true
  | ">>", some c =>
    setFile name { OpenFile.none_ with cell := some c, encoded := encoded }
    return true
  | "<", none =>
    if target = ['-'] then same_ "STDIN" true
    else opened .read true false
  | ">", none =>
    if target = ['-'] then same_ "STDOUT" false
    else opened .write false true
  | ">>", none => opened .append false true
  | "+<", none =>
    match (← act get).files.find? target with
    | none =>
      setPathFault .missing
      return false
    | some _ => opened .both true true
  | "+>", none => opened .both true true
  | "+>>", none => opened .append true true
  | "<&", none => same true false
  | ">&", none => same false true
  | "<&=", none => same true false
  | ">&=", none => same false true
  | "-|", none =>
    flushAll
    exportAll
    if ← isThere (target :: more) then
      let (input, id) ← act (Act.inflowFrom (commandAct h (target :: more)))
      setFile name { OpenFile.none_ with
        input := some input, process := some id, encoded := encoded }
      return true
    else return false
  | "|-", none =>
    flushAll
    exportAll
    if ← isThere (target :: more) then
      let (output, id) ← act (Act.outflowInto (commandAct h (target :: more)))
      setFile name { OpenFile.none_ with
        output := some output, process := some id, encoded := encoded }
      return true
    else return false
  | _, _ =>
    fail ("Unknown open() mode '" ++ mode ++ "'")
where
  /-- a file that is the same as one that every program has -/
  same_ (other : Text) (reads : Bool) : Run Bool := do
    match ← channelOf other with
    | some k =>
      setChannel name reads (!reads) false k
      return true
    | none => return false

/-- a file opened by a text that tells both the way and the path -/
def openByText (h : Helpers) (name t : Text) : Run Bool := do
  let t := strip t
  match t.getLast?, t with
  | some '|', _ => openIn h name "-|" [] (strip t.dropLast) none []
  | _, '|' :: r => openIn h name "|-" [] (strip r) none []
  | _, _ =>
    match modes.find? fun m => m.isPrefixOf t with
    | some m => openIn h name m [] (strip (t.drop m.length)) none []
    | none => openIn h name "<" [] t none []

def openFile (h : Helpers) (name mode : Text) (target : Value) (more : List Text) : Run Bool := do
  let mode := strip mode
  match modes.find? fun m => m.isPrefixOf mode with
  | none => fail ("Unknown open() mode '" ++ mode ++ "'")
  | some m =>
    let layers := strip (mode.drop m.length)
    let path : Text := match target with
      | .handle n => n
      | v => v.toText
    let cell := match target with
      | .cell id => some id
      | _ => none
    if layers ≠ [] ∧ layers.head? ≠ some ':' then openIn h name m [] layers none more
    else openIn h name m layers path cell more

/-! ## the files among the arguments -/

/-- the file that is changed in place finished -/
def finishInPlace : Run Unit := do
  if (← seen (·.inPlace)).isSome then
    if (← file? "ARGVOUT").isSome then
      discard (closeFile "ARGVOUT")
      modify fun m => { m with selected := "STDOUT" }

def startInPlace (path suffix : Text) (i : Inflow) : Run Inflow := do
  let (r, i) ← act i.all
  let t := r.toOption.getD []
  if suffix ≠ [] then
    let copy : Text :=
      if suffix.contains '*' then suffix.flatMap fun c => if c = '*' then path else [c]
      else path ++ suffix
    match (← act get).files.room copy with
    | .ok p => act (modify fun s => { s with files := s.files.putText p t })
    | .error _ => pure ()
  match ← act (Act.openAt .write false path) with
  | .ok k =>
    setChannel "ARGVOUT" false true false k
    modify fun m => { m with selected := "ARGVOUT" }
  | .error _ => pure ()
  return { i with buffer := t, ended := true }

/-- the next file among the arguments opened, in at most so many steps; `false` if there is none -/
def openNext : Nat → Run Bool
  | 0 => return false
  | n + 1 => do
    finishInPlace
    let id ← global (.array, "ARGV".toList)
    let a ← array id
    match a[0]? with
    | none => return false
    | some c =>
      setArray id (a.drop 1)
      let path := (← load c).toText
      store (← global (.scalar, "ARGV".toList)) (.text path)
      let lines := ((← file? "ARGV").map OpenFile.lines).getD 0
      let found : Except PathFault Inflow ←
        if path = ['-'] then pure (.ok (Inflow.of 0)) else act (Act.inflowOf path)
      match found with
      | .ok i =>
        let i ← match (← seen (·.inPlace)) with
          | some suffix => if path = ['-'] then pure i else startInPlace path suffix i
          | none => pure i
        let encoded := ((← file? "STDIN").map OpenFile.encoded).getD false
        setFile "ARGV" { OpenFile.none_ with input := some i, lines := lines, encoded := encoded }
        return true
      | .error f =>
        setPathFault f
        warnText (← complaint ("Can't open " ++ path ++ ": " ++ f.message))
        openNext n

/-- the next line of the files among the arguments, in at most so many steps -/
def argumentLine : Nat → Run (Option Text)
  | 0 => return none
  | n + 1 => do
    if !(← seen (·.began)) then
      modify fun m => { m with began := true }
      let id ← global (.array, "ARGV".toList)
      if (← array id).size = 0 then setValues id [.text ['-']]
      if ← openNext countless then argumentLine n
      else
        modify fun m => { m with began := false }
        return none
    else
      match ← plainLine "ARGV" with
      | some t => return some t
      | none =>
        if ← openNext countless then argumentLine n
        else
          modify fun m => { m with
            began := false
            files := m.files.map fun p =>
              if p.1 = "ARGV".toList then (p.1, { p.2 with input := none }) else p }
          return none

def lineOf (name : Text) : Run (Option Text) :=
  if name = "ARGV".toList then argumentLine countless else plainLine name

/-- all lines that are left of a file, the last one first, in at most so many steps -/
def linesFrom (name : Text) : Nat → List Text → Run (List Text)
  | 0, ts => return ts
  | n + 1, ts => do
    match ← lineOf name with
    | some t => linesFrom name n (t :: ts)
    | none => return ts

def linesOf (name : Text) : Run (List Value) := do
  return (← linesFrom name countless []).reverse.map .text

/-- whether nothing is left to read in a file -/
def isAtEnd (name : Text) : Run Bool := do
  match ← file? name with
  | none => return true
  | some f =>
    match f.input with
    | none => return true
    | some i =>
      if i.buffer ≠ [] then return false
      else if i.ended then return true
      else
        match ← act (Act.take i.descriptor bufferSize) with
        | .ok [] =>
          setFile name { f with input := some { i with ended := true } }
          return true
        | .ok t =>
          setFile name { f with input := some { i with buffer := t } }
          return false
        | .error _ => return true

/-- whether nothing is left to read in the files among the arguments -/
def isAllRead : Run Bool := do
  if !(← seen (·.began)) then return (← array (← global (.array, "ARGV".toList))).size == 0
  else
    return (← isAtEnd "ARGV") && (← array (← global (.array, "ARGV".toList))).size == 0

end Run
end Perl
end Shell
end CoroBridge
