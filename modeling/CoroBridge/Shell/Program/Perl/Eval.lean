import CoroBridge.Shell.Program.Perl.Reader
import CoroBridge.Shell.Program.Perl.Search

/-!
# Command language: the language of `perl`, meaning

What expressions and statements of programs for `perl` do.

* `Perl.Run.scalarOf`, `Perl.Run.listOf`   the value and the values of an expression;
* `Perl.Run.exec`              a statement done;
* `Perl.Run.callCode`          a function called;
* `Perl.meaning`               the meaning of programs.
-/

namespace CoroBridge
namespace Shell
namespace Perl
namespace Run

/-! ## functions called -/

def subOf? (name : Text) : Run (Option Nat) := do
  let m ← get
  match m.subs.lookup (qualified m.package name) with
  | some id => return some id
  | none => return m.subs.lookup (qualified "main" name)

def lastName (name : Text) : Text := (name.reverse.takeWhile (· != ':')).reverse

/-- what a call has come to, where one value or none is wanted -/
def reduced (want : Want) (vs : List Value) : List Value :=
  match want with
  | .list => vs
  | _ => [vs.getLast?.getD .absent]

/-- what a function is called from: the variables that are seen there, the package, what is wanted,
the last match and its text, and the line -/
structure Caller where
  scope : Scope
  package : Text
  want : Want
  found : Option (Trial.Match × Trial.Parsed)
  subject : Text
  line : Nat

def callCode (h : Helpers) (k : Meaning) (want : Want) (id : Nat) (args : List Nat) :
    Run (List Value) := do
  match (← seen (·.codes))[id]? with
  | none => fail "Not a CODE reference"
  | some (.given name) =>
    let vs ← args.mapM load
    match givenFunction? name vs with
    | some vs => return vs
    | none => return ((← useFunction? h (want == .list) name vs).getD [])
  | some (.own package _ scope body) =>
    let given ← newArray args
    let old ← global (.array, ['_'])
    let depth := (← seen (·.saved)).length
    let before : Caller := ← (do
      let m ← get
      return ⟨m.scope, m.package, m.want, m.found, m.subject, m.line⟩)
    let restore : Run Unit := do
      if (← seen (·.saved)).length ≠ depth then putBack depth
      setGlobal (.array, ['_']) old
      modify fun m => { m with
        scope := before.scope, package := before.package, want := before.want, depth := m.depth - 1
        found := before.found, subject := before.subject, line := before.line }
    setGlobal (.array, ['_']) given
    modify fun m => { m with
      scope := scope.getD m.whole, package := package, want := want, depth := m.depth + 1 }
    round
    let vs ← tryCatch (k.body want body) fun s => do
      match s with
      | .back vs => return vs
      | s =>
        restore
        throw s
    restore
    return reduced want vs

/-- what is called where there is no function of a name: one that a module gives -/
def callGiven (h : Helpers) (want : Want) (name : Text) (vs : List Value) :
    Run (List Value) := do
  let w := lastName name
  if w.length < name.length ∨ (← seen (·.known)).contains w then
    match givenFunction? w vs with
    | some vs => return vs
    | none =>
      match String.ofList w, vs with
      | "sleep", v :: _ =>
        discard (sleep (v.toFloat * 1000000).toUInt64.toNat)
        return [v]
      | "time", _ => return [.number (Float.ofNat (← now) / 1000000)]
      | "blessed", v :: _ =>
        return [((← packageOf? v).map Value.text).getD .absent]
      | "reftype", v :: _ =>
        return [if v.isReference then .text (v.toText.takeWhile (· != '(')) else .absent]
      | "croak", vs => do
        fail (vs.flatMap Value.toText)
      | "confess", vs => do
        fail (vs.flatMap Value.toText)
      | "carp", vs => do
        warnText (← complaint (vs.flatMap Value.toText))
        return [.whole 1]
      | "tmpnam", _ => return [.text "/tmp/perl"]
      | _, _ =>
        match ← useFunction? h (want == .list) w vs with
        | some vs => return vs
        | none => fail ("Undefined subroutine &main::" ++ name ++ " called")
  else
    let m ← get
    let full := qualified m.package name
    fail ("Undefined subroutine &" ++ (if full.contains ':' then full else "main::" ++ full)
      ++ " called")

/-- the function that a method is, in a package or those that it follows -/
def methodOf? : Nat → Text → Text → Run (Option Nat)
  | 0, _, _ => return none
  | n + 1, package, name => do
    let m ← get
    match m.subs.lookup (qualified "main" (package ++ "::" ++ name)) with
    | some id => return some id
    | none =>
      let isa : Variable :=
        (.array, if package = "main".toList then "ISA".toList else package ++ "::ISA")
      match m.globals.lookup isa with
      | none => return none
      | some id =>
        for v in ← arrayValues id do
          match ← methodOf? n v.toText name with
          | some id => return some id
          | none => pure ()
        return none

/-- whether a package is another one or follows it -/
def follows : Nat → Text → Text → Run Bool
  | 0, _, _ => return false
  | n + 1, package, other => do
    if package = other then return true
    else
      match (← seen (·.globals)).lookup (.array, package ++ "::ISA") with
      | none => return false
      | some id =>
        for v in ← arrayValues id do
          if ← follows n v.toText other then return true
        return false

/-! ## complaints of the program -/

/-- a text that a program speaks of itself, with the place where it does not end a line -/
def spoken (vs : List Value) (usual : Text) : Run Text := do
  let t := (← vs.mapM textOf).flatten
  let t := if t = [] then usual else t
  if t.getLast? = some '\n' then return t else complaint t

/-- the function that an entry of the hash of signals names -/
def handlerOf? (name : Text) : Run (Option Nat) := do
  match (← seen (·.globals)).lookup (.hash, "SIG".toList) with
  | none => return none
  | some id =>
    match (← hashValues id).lookup name with
    | some (.code id) => return some id
    | some (.text t) =>
      if t = [] ∨ t = "DEFAULT".toList ∨ t = "IGNORE".toList then return none else subOf? t
    | _ => return none

def receive (k : Meaning) : Nat → Run Unit
  | 0 => return
  | n + 1 => do
    let s ← act get
    if s.pending.isEmpty then return
    match ((s.pending.filter (·.1 == s.process)).map Prod.snd).min? with
    | none => return
    | some number =>
      act (modify fun s => { s with pending := s.pending.erase (s.process, number) })
      match s.reaction number with
      | .nothing => pure ()
      | .usual => if Signal.ends number then act (throw (.ended (.signal number)))
      | .commands _ =>
        let name := Signal.word number
        match ← handlerOf? name with
        | some id => discard (k.call .nothing id [← newCell (.text name)])
        | none => pure ()
      receive k n

/-- a warning, which a function of the program may take -/
def warn (k : Meaning) (t : Text) : Run Unit := do
  match ← handlerOf? "__WARN__" with
  | some id => discard (k.call .nothing id [← newCell (.text t)])
  | none => warnText t

/-- a complaint of the program, which a function of it may see first -/
def die (k : Meaning) (vs : List Value) : Run (List Value) := do
  let v : Value ← match vs with
    | [v] =>
      if v.isReference then pure v
      else do pure (.text (← spoken vs "Died"))
    | vs => do pure (.text (← spoken vs "Died"))
  match ← handlerOf? "__DIE__" with
  | some id => discard (k.call .nothing id [← newCell v])
  | none => pure ()
  throw (.die v)

/-! ## files by value -/

/-- the name of the file that a value stands for -/
def fileName (v : Value) : Run Text := do
  match v with
  | .handle n => return n
  | .cell id =>
    match ← load id with
    | .handle n => return n
    | v => return v.toText
  | v => return v.toText

/-- the name of the file that an expression stands for; a variable without a value gets a new one -/
def fileOf (k : Meaning) (e : Expr) : Run Text := do
  match e with
  | .word w => return w
  | .text w => return w
  | e =>
    if isPlace e then
      let c ← k.place e
      match ← load c with
      | .absent =>
        let n := (← seen (·.opened))
        let name : Text := "$" ++ Text.ofNat n
        modify fun m => { m with opened := n + 1 }
        store c (.handle name)
        return name
      | v => fileName v
    else fileName (← k.scalar e)

def print (k : Meaning) (kind : Text) (handle : Option Expr) (args : List Expr) : Run Value := do
  let name ← match handle with
    | some (.block ss) => do fileName ((← k.body .scalar ss).getLast?.getD .absent)
    | some e => fileOf k e
    | none => pure (← seen (·.selected))
  let vs ← if args.isEmpty then do pure [← k.scalar Parse.topic] else k.list (.list args)
  let ts ← vs.mapM textOf
  let pieces ← if kind = "printf".toList then
      match ts with
      | f :: _ => pure [formatted (vs.drop 1) (f.length + 1) (vs.drop 1) f]
      | [] => pure []
    else do
      let between := (← sign ',').toText
      let after := (← sign '\\').toText
      let ts := if between = [] then ts else ts.intersperse between
      let ts := if kind = "say".toList then ts ++ [['\n']] else ts
      pure (if after = [] then ts else ts ++ [after])
  if pieces.any isWide then
    let good ← pieces.mapM (emit kind name)
    return .ofBool (good.all id)
  else return .ofBool (← emit kind name pieces.flatten)

/-! ## functions that look at their arguments themselves -/

/-- the functions of which each argument is one value -/
def scalarFunctions : List Text :=
  (["lc", "uc", "lcfirst", "ucfirst", "fc", "length", "chr", "ord", "int", "hex", "oct", "abs",
    "sqrt", "log", "exp", "sin", "cos", "atan2", "quotemeta", "index", "rindex", "substr", "sleep",
    "alarm", "exit", "chdir", "rmdir", "mkdir", "rename", "readlink", "umask", "localtime", "gmtime",
    "rand", "srand", "readpipe", "waitpid", "unpack", "glob", "time", "wait", "fork", "times",
    "getppid", "symlink", "lock", "study"] : List String).map String.toList

/-- the functions that work on the usual variable where they have no argument -/
def topicFunctions : List Text :=
  (["lc", "uc", "lcfirst", "ucfirst", "fc", "length", "chr", "ord", "int", "hex", "oct", "abs",
    "sqrt", "log", "exp", "sin", "cos", "quotemeta", "unlink", "rmdir", "mkdir", "readlink",
    "glob"] : List String).map String.toList

/-- the array that a function works on where none is named -/
def givenArray (k : Meaning) (args : List Expr) : Run Nat := do
  match args with
  | e :: _ => k.array e
  | [] =>
    if (← seen (·.depth)) = 0 then global (.array, "ARGV".toList) else idOf (.array, ['_'])

/-- line feeds taken away from the ends of values; how many -/
def chomp (cells : List Nat) : Run Value := do
  let ending := (← sign '/').toText
  let mut n := 0
  for c in cells do
    let t := (← load c).toText
    if ending ≠ [] ∧ ending.isSuffixOf t then
      store c (.text (t.take (t.length - ending.length)))
      n := n + ending.length
    else if ending = [] then
      let core := (t.reverse.dropWhile (· == '\n')).reverse
      if core.length < t.length then
        store c (.text core)
        n := n + (t.length - core.length)
  return .count n

/-- the last characters of values taken away; the last one -/
def chop (cells : List Nat) : Run Value := do
  let mut last : Text := []
  for c in cells do
    let t := (← load c).toText
    last := t.getLast?.toList
    store c (.text t.dropLast)
  return .text last

def existing (k : Meaning) (e : Expr) : Run Bool := do
  match e with
  | .entry h key =>
    let id ← k.hash h
    return ((← hash id).lookup (← keyText k key)).isSome
  | .item a i =>
    let id ← k.array a
    return (← itemCell? id (← k.scalar i).toWhole).isSome
  | .call f _ _ => return (← subOf? f).isSome
  | e => return (← k.scalar e).isDefined

/-- entries or items taken away; their values -/
def delete (k : Meaning) (e : Expr) : Run (List Value) := do
  let remove := fun (id : Nat) (key : Text) => do
    let ps ← hash id
    match ps.lookup key with
    | some c =>
      setHash id (ps.filter (·.1 != key))
      load c
    | none => pure (.absent : Value)
  match e with
  | .entry h key =>
    let id ← k.hash h
    let v ← remove id (← keyText k key)
    match h with
    | .variable (_, x) => if x = "SIG".toList then syncSignals
    | _ => pure ()
    return [v]
  | .entries h ks =>
    let id ← k.hash h
    (← k.list ks).mapM fun v => remove id v.toText
  | .item a i =>
    let id ← k.array a
    let n := (← k.scalar i).toWhole
    let v ← match ← itemCell? id n with
      | some c => load c
      | none => pure .absent
    let all ← array id
    if placeIn all.size n = some (all.size - 1) then setArray id all.pop
    return [v]
  | .local_ e =>
    match e with
    | .entry h key =>
      localize k e
      let id ← k.hash h
      let v ← remove id (← keyText k key)
      return [v]
    | _ => return []
  | _ => return []

/-- items of an array replaced with others; those that were there -/
def splice (k : Meaning) (args : List Expr) : Run (List Value) := do
  match args with
  | [] => return []
  | a :: rest =>
    let id ← k.array a
    let old := (← array id).toList
    let ns ← (rest.take 2).mapM k.scalar
    let new ← newCells (← k.list (.list (rest.drop 2)))
    match partOf old.length ((ns[0]?.map Value.toWhole).getD 0) (ns[1]?.map Value.toWhole) with
    | none => return []
    | some (first, size) =>
      setArray id (old.take first ++ new ++ old.drop (first + size)).toArray
      ((old.drop first).take size).mapM load

/-- the next key of a hash and its value, or the next index of an array and its item -/
def each (k : Meaning) (e : Expr) : Run (List Value) := do
  let isArray : Bool := match e with
    | .variable (.array, _) => true
    | .behind .array _ => true
    | _ => false
  if isArray then return []
  else
    let id ← k.hash e
    let n := ((← seen (·.iterators)).lookup id).getD 0
    match (← hashValues id)[n]? with
    | some (key, v) =>
      modify fun m => { m with iterators := Shell.put id (n + 1) m.iterators }
      return [.text key, v]
    | none =>
      modify fun m => { m with iterators := m.iterators.filter (·.1 != id) }
      return []

/-- whether an expression stands for an array -/
def isArray : Expr → Bool
  | .variable (.array, _) => true
  | .behind .array _ => true
  | _ => false

/-- what is read into a variable, at a place in its value -/
def readInto (k : Meaning) (args : List Expr) : Run Value := do
  match args with
  | file :: x :: rest =>
    let name ← fileOf k file
    let c ← k.place x
    let ns ← rest.mapM k.scalar
    let size := (ns.headD .absent).toCount
    let offset := ((ns.drop 1).head?.map Value.toCount).getD 0
    match ← file? name with
    | some f =>
      match f.input with
      | none => return .absent
      | some i =>
        let rec fill : Nat → Inflow → Run Inflow
          | 0, i => return i
          | n + 1, i => do
            if i.ended ∨ size ≤ i.buffer.length then return i
            else
              match ← act (Act.take i.descriptor bufferSize) with
              | .ok [] => return { i with ended := true }
              | .ok t => fill n { i with buffer := i.buffer ++ t }
              | .error _ => return { i with ended := true }
        let i ← fill countless i
        let t := i.buffer.take size
        setFile name { f with input := some { i with buffer := i.buffer.drop size } }
        let old := (← load c).toText
        store c (.text (old.take offset ++ List.replicate (offset - old.length) '\x00' ++ t))
        return .count t.length
    | none => return .absent
  | _ => return .absent

def binmode (k : Meaning) (args : List Expr) : Run Value := do
  match args with
  | file :: rest =>
    let name ← fileOf k file
    let layers ← rest.mapM k.scalar
    match ← file? name with
    | some f =>
      setFile name { f with encoded := layers.any fun v => asksEncoding v.toText }
      return .whole 1
    | none => return .absent
  | [] => return .absent

/-- the sort of thing that a reference leads to -/
def refOf (v : Value) : Run Value := do
  match ← packageOf? v with
  | some p => return .text p
  | none =>
    match v with
    | .cell id =>
      match ← load id with
      | .handle _ => return .text "GLOB"
      | w => return .text (if w.isReference then "REF" else "SCALAR")
    | .array _ => return .text "ARRAY"
    | .hash _ => return .text "HASH"
    | .code _ => return .text "CODE"
    | .handle _ => return .text "GLOB"
    | _ => return .text []

def evalText (k : Meaning) (want : Want) (t : Text) : Run (List Value) := do
  let n := (← seen (·.evaluated)) + 1
  modify fun m => { m with evaluated := n }
  let name : Text := "(eval " ++ Text.ofNat n ++ [')']
  match Program.of name true t with
  | .error what => throw (.die (.text what))
  | .ok p =>
    let file := (← seen (·.file))
    modify fun m => { m with file := name }
    for s in p.body do
      match s with
      | .define name body =>
        let m ← get
        let id ← newCode (.own m.package name (some m.scope) body)
        modify fun m => { m with subs := Shell.put (qualified m.package name) id m.subs }
      | _ => pure ()
    let vs ← tryCatch (k.body want p.body) fun s => do
      modify fun m => { m with file := file }
      throw s
    modify fun m => { m with file := file }
    return vs

/-- something done; a complaint is kept and nothing comes of it -/
def attempt (want : Want) (x : Run (List Value)) : Run (List Value) := do
  let line := (← seen (·.line))
  let r ← tryCatch (do
      let vs ← within x
      pure (some vs)) fun s => do
    match s with
    | .die v =>
      modify fun m => { m with line := line }
      setSign '@' v
      pure none
    | s => throw s
  match r with
  | some vs =>
    setSign '@' (.text [])
    return vs
  | none => return if want == .list then [] else [.absent]

/-- a function that looks at its arguments itself; the values that come of it, if it is one -/
def ownFunction? (h : Helpers) (k : Meaning) (want : Want) (name : Text) (args : List Expr) :
    Run (Option (List Value)) := do
  let first := args.headD Parse.topic
  let one := fun (v : Value) => (pure (some [v]) : Run (Option (List Value)))
  let good := fun (b : Bool) => one (.ofBool b)
  match String.ofList name with
  | "defined" =>
    match first with
    | .call .. => good (← existing k first)
    | .entry .. =>
      if ← existing k first then good (← k.scalar first).isDefined else good false
    | .item .. =>
      if ← existing k first then good (← k.scalar first).isDefined else good false
    | e => good (← k.scalar e).isDefined
  | "undef" =>
    match args with
    | [] => one .absent
    | e :: _ =>
      match e with
      | .variable (.array, _) => setArray (← k.array e) #[]
      | .variable (.hash, _) => setHash (← k.hash e) []
      | .behind .array _ => setArray (← k.array e) #[]
      | .behind .hash _ => setHash (← k.hash e) []
      | e => store (← k.place e) .absent
      one .absent
  | "scalar" => one (← k.scalar first)
  | "ref" => one (← refOf (← k.scalar first))
  | "shift" =>
    let id ← givenArray k args
    let a ← array id
    match a[0]? with
    | some c =>
      setArray id (a.drop 1)
      one (← load c)
    | none => one .absent
  | "pop" =>
    let id ← givenArray k args
    let a ← array id
    match a.back? with
    | some c =>
      setArray id a.pop
      one (← load c)
    | none => one .absent
  | "push" =>
    let id ← k.array first
    let cs ← newCells (← k.list (.list (args.drop 1)))
    modify fun m => { m with arrays := m.arrays.modify id fun a => a ++ cs.toArray }
    one (.count (← array id).size)
  | "unshift" =>
    let id ← k.array first
    let cs ← newCells (← k.list (.list (args.drop 1)))
    setArray id (cs.toArray ++ (← array id))
    one (.count (← array id).size)
  | "splice" =>
    let vs ← splice k args
    return some (if want == .list then vs else [vs.getLast?.getD .absent])
  | "keys" =>
    if isArray first then
      let n := (← array (← k.array first)).size
      return some (if want == .list then (List.range n).map .count else [.count n])
    else
      let id ← k.hash first
      modify fun m => { m with iterators := m.iterators.filter (·.1 != id) }
      let ps ← hash id
      return some (if want == .list then ps.map fun p => .text p.1 else [.count ps.length])
  | "values" =>
    if isArray first then return some (← k.list first)
    else
      let ps ← hashValues (← k.hash first)
      return some (if want == .list then ps.map Prod.snd else [.count ps.length])
  | "each" =>
    let vs ← each k first
    return some (if want == .list then vs else [vs.headD .absent])
  | "delete" =>
    let vs ← delete k first
    return some (if want == .list then vs else [vs.getLast?.getD .absent])
  | "exists" => good (← existing k first)
  | "chomp" => one (← chomp (← k.cells first))
  | "chop" => one (← chop (← k.cells first))
  | "split" =>
    let vs ← split k args
    return some (if want == .list then vs else [.count vs.length])
  | "die" => return some (← die k (← k.list (.list args)))
  | "warn" =>
    warn k (← spoken (← k.list (.list args)) "Warning: something's wrong")
    one (.whole 1)
  | "eval" =>
    let t ← textOf (← k.scalar first)
    return some (← attempt want (evalText k want t))
  | "do" =>
    let path := (← k.scalar first).toText
    match (← act get).files.read path with
    | .ok t => return some (← attempt want (evalText k want t))
    | .error f =>
      setPathFault f.reason
      one .absent
  | "require" =>
    match first with
    | .word w =>
      if Parse.modules.contains w then one (.whole 1)
      else
        setPathFault .missing
        fail (Parse.notFound (Parse.modulePath w) (Parse.moduleHint w))
    | e =>
      let v ← k.scalar e
      let path := v.toText
      if Value.looksNumeric path then one (.whole 1)
      else if path.head? = some '/' ∨ path.head? = some '.' then
        match (← act get).files.read path with
        | .ok t => return some (← evalText k want t)
        | .error f =>
          setPathFault f.reason
          fail (Parse.notFound path [])
      else
        setPathFault .missing
        fail (Parse.notFound path [])
  | "wantarray" =>
    one (match (← seen (·.want)) with
      | .list => .whole 1
      | .scalar => .whole 0
      | .nothing => .absent)
  | "bless" =>
    let v ← k.scalar first
    let p ← match args[1]? with
      | some e => do pure (← k.scalar e).toText
      | none => pure (← seen (·.package))
    match markOf? v with
    | some mark => modify fun m => { m with blessed := Shell.put mark p m.blessed }
    | none => pure ()
    one v
  | "pos" =>
    let c ← k.place first
    one (((← seen (·.positions)).lookup c).map (fun p => .count p.1) |>.getD .absent)
  | "handle" => one (.handle (← textOf (← k.scalar first)))
  | "open" =>
    let name ← fileOf k first
    match args.drop 1 with
    | [] => good false
    | [t] => good (← openByText h name (← k.scalar t).toText)
    | mode :: target :: more =>
      let v ← match target with
        | .word w => pure (.text w)
        | .reference e => do pure (.cell (← k.place e))
        | e => k.scalar e
      good (← openFile h name (← k.scalar mode).toText v
        ((← k.list (.list more)).map Value.toText))
  | "close" =>
    match args with
    | [] => good (← closeFile (← seen (·.selected)))
    | e :: _ =>
      let name ← fileOf k e
      if name = "ARGV".toList then
        match ← file? name with
        | some f =>
          setFile name { f with input := none, lines := 0 }
          setSign '.' (.whole 0)
          good true
        | none => good false
      else good (← closeFile name)
  | "eof" =>
    match args with
    | [] =>
      match (← seen (·.lastRead)) with
      | some f => good (← isAtEnd f)
      | none => good (← isAllRead)
    | e :: _ =>
      match e with
      | .list [] => good (← isAllRead)
      | e => good (← isAtEnd (← fileOf k e))
  | "binmode" => one (← binmode k args)
  | "fileno" =>
    let name ← fileOf k first
    match ← file? name with
    | none => one .absent
    | some f =>
      let n := ((f.output.map Outflow.descriptor) <|> (f.input.map Inflow.descriptor)).getD 3
      one (.count (if Act.unnamed < n then n - Act.unnamed + 2 else n))
  | "readline" =>
    let name ← fileOf k first
    if want == .list then return some (← linesOf name)
    else one ((← lineOf name).map Value.text |>.getD .absent)
  | "read" => one (← readInto k args)
  | "sysread" => one (← readInto k args)
  | "getc" =>
    let name ← match args with
      | e :: _ => fileOf k e
      | [] => pure "STDIN".toList
    if ← isAtEnd name then one .absent
    else
      match ← file? name with
      | some f =>
        match f.input with
        | some i =>
          setFile name { f with input := some { i with buffer := i.buffer.drop 1 } }
          one (.text (i.buffer.take 1))
        | none => one .absent
      | none => one .absent
  | "syswrite" =>
    let name ← fileOf k first
    let t := (← k.scalar (args.getD 1 (.text []))).toText
    let t ← match args[2]? with
      | some e => do pure (t.take (← k.scalar e).toCount)
      | none => pure t
    match ← file? name with
    | some f =>
      match f.output with
      | some o =>
        if ← settle (← act (Act.put o.descriptor t)) then one (.count t.length) else one .absent
      | none => one .absent
    | none => one .absent
  | "select" =>
    match args with
    | [_, _, _, time] =>
      let t := (← k.scalar time).toFloat
      discard (sleep (t * 1000000).toUInt64.toNat)
      one (.whole 0)
    | e :: _ =>
      let old := (← seen (·.selected))
      let name ← fileOf k e
      modify fun m => { m with selected := name }
      setSign '|' (.ofBool (((← file? name).map OpenFile.prompt).getD false))
      one (.handle old)
    | [] => one (.handle (← seen (·.selected)))
  | "seek" =>
    let name ← fileOf k first
    let p := (← k.scalar (args.getD 1 (.whole 0))).toCount
    discard (flush name)
    match ← file? name with
    | some f =>
      let d := (f.input.map Inflow.descriptor) <|> (f.output.map Outflow.descriptor)
      match d with
      | some d =>
        match ← act (Act.channelOf d) with
        | some c =>
          match (← act get).channels[c]? with
          | some (.file place _ use) => act (Act.setChannel c (.file place p use))
          | _ => pure ()
        | none => pure ()
        setFile name { f with input := f.input.map fun i => .of i.descriptor, ended := false }
        good true
      | none => good false
    | none => good false
  | "tell" => one (.whole 0)
  | "opendir" =>
    let name ← fileOf k first
    let path := (← k.scalar (args.getD 1 (.text []))).toText
    let files := (← act get).files
    match files.find path, files.place path with
    | .ok .directory, .ok p =>
      setFile name { OpenFile.none_ with names := ['.'] :: ['.', '.'] :: files.names p }
      good true
    | .ok _, _ =>
      setPathFault .notDirectory
      good false
    | .error f, _ =>
      setPathFault f
      good false
  | "readdir" =>
    let name ← fileOf k first
    match ← file? name with
    | none => return some (if want == .list then [] else [.absent])
    | some f =>
      if want == .list then
        setFile name { f with names := [] }
        return some (f.names.map .text)
      else
        setFile name { f with names := f.names.drop 1 }
        one (f.names.head?.map Value.text |>.getD .absent)
  | "closedir" => good (← closeFile (← fileOf k first))
  | "pipe" =>
    let a ← fileOf k first
    let b ← fileOf k (args.getD 1 (.word "W"))
    let (outlet, inlet) ← act Act.addPipe
    setChannel a true false false outlet
    setChannel b false true false inlet
    good true
  | "stat" =>
    let path := (← k.scalar first).toText
    match (← act get).files.find path with
    | .ok n =>
      let size := match n with
        | .file t _ => t.length
        | _ => 4096
      return some (if want == .list then
          ([0, 0, 33188, 1, 0, 0, 0, size, 0, 0, 0, 4096, 8] : List Nat).map .count
        else [.whole 1])
    | .error f =>
      setPathFault f
      return some (if want == .list then [] else [.text []])
  | "caller" =>
    if (← seen (·.depth)) = 0 then return some (if want == .list then [] else [.absent])
    else
      let m ← get
      return some (if want == .list then [.text m.package, .text m.file, .count m.line]
        else [.text m.package])
  | "__SUB__" => one .absent
  | "reverse" =>
    let vs ← k.list (.list args)
    if want == .list then return some vs.reverse
    else
      let ts ← (if args.isEmpty then do pure [← k.scalar Parse.topic] else pure vs).bind
        fun vs => vs.mapM textOf
      one (.text ts.flatten.reverse)
  | "substr" =>
    match args with
    | [x, first, size, new] =>
      let old ← k.scalar (.use "substr" [x, first, size])
      discard (put k (.use "substr" [x, first, size]) (← k.scalar new))
      one old
    | _ => return none
  | "local" => do
    localize k first
    one (← k.scalar first)
  | "sprintf" => do
    let vs ← k.list (.list args)
    let t := (vs.headD .absent).toText
    one (.text (formatted (vs.drop 1) (t.length + 1) (vs.drop 1) t))
  | "join" => do
    let vs ← k.list (.list args)
    let ts ← vs.mapM textOf
    one (.text (List.intercalate (ts.headD []) (ts.drop 1)))
  | _ => return none

def useOf (h : Helpers) (k : Meaning) (want : Want) (name : Text) (args : List Expr) :
    Run (List Value) := do
  match ← ownFunction? h k want name args with
  | some vs => return vs
  | none =>
    let args := if args.isEmpty ∧ topicFunctions.contains name then [Parse.topic] else args
    let vs ← if scalarFunctions.contains name then args.mapM k.scalar else k.list (.list args)
    match textFunction? name vs with
    | some v => return [v]
    | none =>
      match ← useFunction? h (want == .list) name vs with
      | some vs => return vs
      | none => fail ("The " ++ name ++ " function is unimplemented")

/-! ## blocks of functions -/

def merge (less : Value → Value → Run Bool) : Nat → List Value → List Value → Run (List Value)
  | 0, as, bs => return as ++ bs
  | n + 1, as, bs => do
    match as, bs with
    | [], bs => return bs
    | as, [] => return as
    | a :: as', b :: bs' =>
      if ← less b a then return b :: (← merge less n as bs')
      else return a :: (← merge less n as' bs)

/-- values sorted; those that are equal stay in their order -/
def sortBy (less : Value → Value → Run Bool) : Nat → List Value → Run (List Value)
  | 0, vs => return vs
  | n + 1, vs => do
    if vs.length < 2 then return vs
    else
      let half := vs.length / 2
      let a ← sortBy less n (vs.take half)
      let b ← sortBy less n (vs.drop half)
      merge less (vs.length + 1) a b

def sort (k : Meaning) (block : List Stmt) (vs : List Value) : Run (List Value) := do
  if block.isEmpty then
    return vs.mergeSort fun a b => textOrder a b != .gt
  else
    let a ← global (.scalar, ['a'])
    let b ← global (.scalar, ['b'])
    let less := fun (x y : Value) => do
      store a x
      store b y
      let vs ← k.body .scalar block
      return (vs.getLast?.getD .absent).toWhole < 0
    sortBy less (vs.length + 1) vs

def holdsFor (k : Meaning) (block : List Stmt) (c : Nat) : Run Bool := do
  let vs ← withGlobal (.scalar, ['_']) c (within (k.body .scalar block))
  return (vs.getLast?.getD .absent).holds

/-- a function that does a block for each of some values -/
def blockUse (k : Meaning) (want : Want) (name : Text) (block : List Stmt) (args : List Expr) :
    Run (List Value) := do
  let counted := fun (vs : List Value) =>
    if want == .list then vs else [.count vs.length]
  match String.ofList name with
  | "sort" => return counted (← sort k block (← k.list (.list args)))
  | "map" =>
    let cs ← k.cells (.list args)
    let vs ← cs.mapM fun c => do
      round
      withGlobal (.scalar, ['_']) c (within (k.body .list block))
    return counted vs.flatten
  | "grep" =>
    let cs ← k.cells (.list args)
    let good ← cs.filterM fun c => do
      round
      holdsFor k block c
    return counted (← good.mapM load)
  | "reduce" =>
    match ← k.list (.list args) with
    | [] => return [.absent]
    | v :: vs =>
      let a ← global (.scalar, ['a'])
      let b ← global (.scalar, ['b'])
      let r ← vs.foldlM (fun x y => do
        store a x
        store b y
        return ((← k.body .scalar block).getLast?.getD .absent)) v
      return [r]
  | f =>
    let cs ← k.cells (.list args)
    let rec find : List Nat → Run (Option Nat)
      | [] => return none
      | c :: cs => do if ← holdsFor k block c then return some c else find cs
    let rec every : List Nat → Run Bool
      | [] => return true
      | c :: cs => do if ← holdsFor k block c then every cs else return false
    match f with
    | "first" =>
      match ← find cs with
      | some c => return [← load c]
      | none => return [.absent]
    | "any" => return [.ofBool (← find cs).isSome]
    | "none" => return [.ofBool (← find cs).isNone]
    | _ => return [.ofBool (← every cs)]

/-! ## calls -/

def callName (h : Helpers) (k : Meaning) (want : Want) (name : Text) (args : List Expr)
    (bare : Bool) : Run (List Value) := do
  match ← subOf? name with
  | some id =>
    let cs ← if bare then do pure (← array (← idOf (.array, ['_']))).toList
      else k.cells (.list args)
    k.call want id cs
  | none => callGiven h want name (← k.list (.list args))

def callMethod (k : Meaning) (want : Want) (object : Value) (name : Text)
    (args : List Expr) : Run (List Value) := do
  let package ← packageOf? object
  let isFile : Bool := match object, package with
    | .handle _, _ => true
    | .text t, none => ["STDIN", "STDOUT", "STDERR"].any fun (n : String) => n.toList = t
    | _, _ => false
  if isFile then
    let file ← fileName object
    match String.ofList name with
    | "autoflush" =>
      let on ← match args with
        | e :: _ => do pure (← k.scalar e).holds
        | [] => pure true
      match ← file? file with
      | some f =>
        setFile file { f with prompt := on }
        discard (flush file)
      | none => pure ()
      return [.whole 1]
    | "flush" => return [.ofBool (← flush file)]
    | "print" => return [← print k "print" (some (.use "handle" [.text file])) args]
    | "say" => return [← print k "say" (some (.use "handle" [.text file])) args]
    | "printf" => return [← print k "printf" (some (.use "handle" [.text file])) args]
    | "close" => return [.ofBool (← closeFile file)]
    | "getline" => return [(← lineOf file).map Value.text |>.getD .absent]
    | "getlines" => linesOf file
    | "eof" => return [.ofBool (← isAtEnd file)]
    | "binmode" => return [← binmode k (.use "handle" [.text file] :: args)]
    | _ =>
      fail ("Can't locate object method \"" ++ name ++ "\" via package \"IO::File\"")
  else
    let shown ← textOf object
    let start ← match package with
      | some p => pure p
      | none =>
        if object.isReference then
          fail ("Can't call method \"" ++ name ++ "\" on unblessed reference")
        else if !object.isDefined then
          fail ("Can't call method \"" ++ name ++ "\" on an undefined value")
        else if shown = [] then
          fail ("Can't call method \"" ++ name ++ "\" without a package or object reference")
        else pure shown
    let (start, method) ←
      match Text.after? "SUPER::" name with
      | some m => do
        let isa := (← seen (·.globals)).lookup (.array, (← seen (·.package)) ++ "::ISA")
        let parent ← match isa with
          | some id => do pure ((← arrayValues id).headD .absent).toText
          | none => pure start
        pure (parent, m)
      | none => pure (start, name)
    match ← methodOf? 100 start method with
    | some id =>
      let cs ← k.cells (.list args)
      k.call want id ((← newCell object) :: cs)
    | none =>
      let vs ← k.list (.list args)
      match String.ofList method, vs with
      | "isa", v :: _ => return [.ofBool (← follows 100 start v.toText)]
      | "can", v :: _ =>
        return [((← methodOf? 100 start v.toText).map Value.code).getD (.text [])]
      | "import", _ => return []
      | _, _ =>
        let hint : Text := " (perhaps you forgot to load \"" ++ start ++ "\"?)"
        fail ("Can't locate object method \"" ++ method ++ "\" via package \"" ++ start ++ "\""
          ++ (if package.isSome then [] else hint))

/-- what a value that is called stands for, called -/
def callValue (h : Helpers) (k : Meaning) (want : Want) (f : Value) (args : List Expr) :
    Run (List Value) := do
  match f with
  | .code id => k.call want id (← k.cells (.list args))
  | .absent => fail "Can't use an undefined value as a subroutine reference"
  | v =>
    if v.isReference then fail "Not a CODE reference"
    else
      match ← subOf? v.toText, args with
      | some id, args => k.call want id (← k.cells (.list args))
      | none, object :: rest => callMethod k want (← k.scalar object) v.toText rest
      | none, [] => callGiven h want v.toText []

/-! ## expressions -/

/-- a reference to what an expression stands for -/
def referenceTo (k : Meaning) (e : Expr) : Run Value := do
  match e with
  | .variable (.array, _) => return .array (← k.array e)
  | .variable (.hash, _) => return .hash (← k.hash e)
  | .behind .array _ => return .array (← k.array e)
  | .behind .hash _ => return .hash (← k.hash e)
  | .my [(.array, _)] _ => return .array (← k.array e)
  | .my [(.hash, _)] _ => return .hash (← k.hash e)
  | .call name _ true =>
    match ← subOf? name with
    | some id => return .code id
    | none => return .code (← newCode (.given (lastName name)))
  | .use f _ =>
    if f = "handle".toList then k.scalar e else return .cell (← newCell (← k.scalar e))
  | .newSub _ => return .cell (← newCell (← k.scalar e))
  | .list [e] => do
    if isArray e then return .cell ((← k.cells e).getLastD 0) else return .cell (← k.place e)
  | e => return .cell (← k.place e)

def flip (k : Meaning) (a b : Expr) (id : Nat) : Run Value := do
  let test := fun (e : Expr) => do
    match e with
    | .whole n => return (← sign '.').toWhole == n
    | e => return (← k.scalar e).holds
  let inside := (← seen (·.ranges))[id]?.getD false
  let begins ← if inside then pure true else test a
  if begins then
    let ends ← test b
    modify fun m => { m with ranges := m.ranges.setIfInBounds id (!ends) }
    return .whole 1
  else return .text []

def joinedText (k : Meaning) (parts : List Expr) : Run Text := do
  let ts ← parts.mapM fun e => do
    if isPlural e then
      let vs ← k.list e
      return List.intercalate (← sign '"').toText (← vs.mapM textOf)
    else textOf (← k.scalar e)
  return ts.flatten

/-- an assignment of one value, perhaps with an operation -/
def assignScalar (k : Meaning) (op : Text) (a b : Expr) : Run Value := do
  match String.ofList op with
  | "" => put k a (← k.scalar b)
  | "||" =>
    let c ← k.place a
    let v ← load c
    if v.holds then return v else put k a (← k.scalar b)
  | "&&" =>
    let c ← k.place a
    let v ← load c
    if v.holds then put k a (← k.scalar b) else return v
  | "//" =>
    let c ← k.place a
    let v ← load c
    if v.isDefined then return v else put k a (← k.scalar b)
  | _ =>
    if isArray a then
      let id ← k.array a
      let vs ← arrayValues id
      let w ← k.list b
      if op = ['x'] then
        setValues id (List.replicate (w.headD .absent).toCount vs).flatten
      return .count (← array id).size
    else
      let w ← k.scalar b
      let c ← k.place a
      let old ← load c
      let old := match old with
        | .absent => if op = ['.'] ∨ op = ['x'] then .text [] else .whole 0
        | v => v
      match operation op old w with
      | .ok v =>
        store c v
        noticed a
        return v
      | .error what => fail what

/-- an operation on the values of two expressions -/
def operate (k : Meaning) (op : Text) (a b : Expr) : Run Value := do
  let x ← k.scalar a
  let y ← k.scalar b
  let x ← if x.isReference ∧ op ≠ "==".toList ∧ op ≠ "!=".toList then do
      pure (.text (← textOf x)) else pure x
  let y ← if y.isReference ∧ op ≠ "==".toList ∧ op ≠ "!=".toList then do
      pure (.text (← textOf y)) else pure y
  match operation op x y with
  | .ok v => return v
  | .error what => fail what

def signed (k : Meaning) (op : Text) (e : Expr) : Run Value := do
  let v ← k.scalar e
  match String.ofList op with
  | "!" => return .ofBool (!v.holds)
  | "~" => return .whole (Nat.pow 2 64 - 1 - bitsOf v : Nat)
  | _ =>
    match v with
    | .text (c :: t) =>
      if isVariableStart c then return .text ('-' :: c :: t)
      else
        match v.whole? with
        | some n => return .ofWhole (-n)
        | none => return .number (-v.toFloat)
    | .number x => return .number (-x)
    | v =>
      match v.whole? with
      | some n => return .ofWhole (-n)
      | none => return .number (-v.toFloat)

/-- the value of a variable and one more or less -/
def stepped (k : Meaning) (early up : Bool) (e : Expr) : Run Value := do
  let c ← k.place e
  let v ← load c
  let w := if up then v.next else v.previous
  store c w
  noticed e
  return if early then w
    else match v with
      | .absent => if up then .whole 0 else .absent
      | v => v

def fits (k : Meaning) (negated : Bool) (subject pattern : Expr) : Run Bool := do
  let f : MatchFlags := ⟨false, false, false, false, .plain⟩
  return (← matchScalar k (some subject) pattern f) != negated

def scalarOf (h : Helpers) (k : Meaning) (e : Expr) : Run Value := do
  match e with
  | .whole n => return .ofWhole n
  | .number x => return .number x
  | .text t => return .text t
  | .word t => do
    match ← subOf? t with
    | some id => return ((← k.call .scalar id []).getLast?.getD .absent)
    | none => return .text t
  | .join parts => return .text (← joinedText k parts)
  | .variable (.scalar, x) => value x
  | .variable (.array, _) => return .count (← array (← k.array e)).size
  | .variable (.hash, _) => return .count (← hash (← k.hash e)).length
  | .my xs _ => do
    for x in xs do discard (declare x)
    return .absent
  | .our xs _ => do
    for x in xs do discard (global x)
    match xs with
    | [x] => if x.1 = .scalar then load (← global x) else return .absent
    | _ => return .absent
  | .local_ e' => do
    localize k e'
    if takesList e' then return .absent else k.scalar e'
  | .item a i => do
    let id ← k.array a
    match ← itemCell? id (← k.scalar i).toWhole with
    | some c => load c
    | none => return .absent
  | .entry (.variable (.hash, ['+'])) key => do
    match (← seen (·.found)) with
    | some (m, p) =>
      match (p.names.lookup (← keyText k key)).bind m.group? with
      | some t => return .text t
      | none => return .absent
    | none => return .absent
  | .entry h key => do
    let id ← k.hash h
    match (← hash id).lookup (← keyText k key) with
    | some c => load c
    | none => return .absent
  | .behind .scalar r => do
    match ← k.scalar r with
    | .handle n => return .handle n
    | _ => load (← cellBehind k r)
  | .behind .array r => return .count (← array (← arrayBehind k r)).size
  | .behind .hash r => return .count (← hash (← hashBehind k r)).length
  | .lastIndex a => return .whole ((← array (← k.array a)).size - 1 : Int)
  | .list es =>
    match es.reverse with
    | [] => return .absent
    | last :: before => do
      for e in before.reverse do discard (k.scalar e)
      k.scalar last
  | .newArray es => return .array (← newArray (← newCells (← k.list (.list es))))
  | .newHash es => do
    let id ← newHash []
    setPairs id (← k.list (.list es))
    return .hash id
  | .newSub body => do
    let m ← get
    return .code (← newCode (.own m.package "__ANON__" (some m.scope) body))
  | .reference (.list es) =>
    match es with
    | [e] => referenceTo k (.list [e])
    | es => do
      let vs ← es.mapM (referenceTo k)
      return vs.getLast?.getD .absent
  | .reference e => referenceTo k e
  | .call name args bare =>
    return ((← callName h k .scalar name args bare).getLast?.getD .absent)
  | .callBehind f args =>
    return ((← callValue h k .scalar (← k.scalar f) args).getLast?.getD .absent)
  | .method o name args =>
    return ((← callMethod k .scalar (← k.scalar o) name args).getLast?.getD .absent)
  | .use name args => return ((← useOf h k .scalar name args).getLast?.getD .absent)
  | .blockUse name block args =>
    return ((← blockUse k .scalar name block args).getLast?.getD .absent)
  | .unary op e => signed k op e
  | .binary op a b => operate k op a b
  | .both a b => do
    let v ← k.scalar a
    if v.holds then k.scalar b else return v
  | .either a b => do
    let v ← k.scalar a
    if v.holds then return v else k.scalar b
  | .defined_ a b => do
    let v ← k.scalar a
    if v.isDefined then return v else k.scalar b
  | .choice t a b => do if (← k.scalar t).holds then k.scalar a else k.scalar b
  | .assign op a b =>
    if op = [] ∧ takesList a then do
      let vs ← k.list b
      discard (fill k a vs)
      return .count vs.length
    else assignScalar k op a b
  | .step early up e => stepped k early up e
  | .range a b id => flip k a b id
  | .match_ subject negated pattern f =>
    return .ofBool ((← matchScalar k subject pattern f) != negated)
  | .substitute subject pattern replacement f => substitute k subject pattern replacement f
  | .exchange subject from_ dest f => exchange k subject from_ dest f
  | .pattern e n => return .regex (← k.scalar e).toText n
  | .fits negated subject pattern => return .ofBool (← fits k negated subject pattern)
  | .readLine f => do
    match ← lineOf (← fileOf k f) with
    | some t => return .text t
    | none => return .absent
  | .print kind handle args => print k kind handle args
  | .fileTest c e => do
    match e with
    | .word w => fileTest c (.handle w)
    | e => fileTest c (← k.scalar e)
  | .block ss => return ((← within (k.body .scalar ss)).getLast?.getD .absent)
  | .attempt ss =>
    return ((← attempt .scalar (k.body .scalar ss)).getLast?.getD .absent)
  | .back e => do
    let want := (← seen (·.want))
    match e with
    | none => throw (.back (if want == .scalar then [.absent] else []))
    | some e =>
      if want == .list then throw (.back (← k.list e)) else throw (.back [← k.scalar e])
  | .jump kind label =>
    match String.ofList kind with
    | "next" => throw (.next label)
    | "redo" => throw (.redo label)
    | _ => throw (.leave label)
  | e => return ((← k.list e).getLast?.getD .absent)

def listOf (h : Helpers) (k : Meaning) (e : Expr) : Run (List Value) := do
  match e with
  | .variable (.array, _) => arrayValues (← k.array e)
  | .variable (.hash, _) => pairsOf (← k.hash e)
  | .behind .array r => arrayValues (← arrayBehind k r)
  | .behind .hash r => pairsOf (← hashBehind k r)
  | .list es =>
    let vs ← es.mapM k.list
    return vs.flatten
  | .items a is => do
    let id ← k.array a
    (← k.list is).mapM fun i => do
      match ← itemCell? id i.toWhole with
      | some c => load c
      | none => return .absent
  | .entries h' ks => do
    let id ← k.hash h'
    let ps ← hashValues id
    return (← k.list ks).map fun v => (ps.lookup v.toText).getD .absent
  | .pairs h' ks => do
    let id ← k.hash h'
    let ps ← hashValues id
    return (← k.list ks).flatMap fun v => [.text v.toText, (ps.lookup v.toText).getD .absent]
  | .listItems l is => do
    let vs ← k.list l
    if vs.isEmpty then return []
    else
      return (← k.list is).map fun i =>
        ((placeIn vs.length i.toWhole).bind fun n => vs[n]?).getD .absent
  | .my xs _ => do
    for x in xs do discard (declare x)
    return []
  | .reference (.list es) =>
    match es with
    | [e] => do
      let cs ← k.cells e
      return cs.map .cell
    | es => es.mapM (referenceTo k)
  | .call name args bare => callName h k .list name args bare
  | .callBehind f args => do callValue h k .list (← k.scalar f) args
  | .method o name args => do callMethod k .list (← k.scalar o) name args
  | .use name args => useOf h k .list name args
  | .blockUse name block args => blockUse k .list name block args
  | .binary op a b =>
    match a with
    | .list _ =>
      if op = ['x'] then do
        let vs ← k.list a
        return (List.replicate (← k.scalar b).toCount vs).flatten
      else return [← k.scalar e]
    | _ => return [← k.scalar e]
  | .both a b => do
    let v ← k.scalar a
    if v.holds then k.list b else return [v]
  | .either a b => do
    let v ← k.scalar a
    if v.holds then return [v] else k.list b
  | .defined_ a b => do
    let v ← k.scalar a
    if v.isDefined then return [v] else k.list b
  | .choice t a b => do if (← k.scalar t).holds then k.list a else k.list b
  | .assign op a b =>
    if op = [] ∧ takesList a then do
      let vs ← k.list b
      (← fill k a vs).mapM load
    else return [← assignScalar k op a b]
  | .range a b _ => return (Value.upTo (← k.scalar a) (← k.scalar b))
  | .match_ subject negated pattern f =>
    if negated then return [← k.scalar e] else matchList k subject pattern f
  | .readLine f => do linesOf (← fileOf k f)
  | .block ss => within (k.body .list ss)
  | .attempt ss => attempt .list (k.body .list ss)
  | .word t => do
    match ← subOf? t with
    | some id => k.call .list id []
    | none => return [.text t]
  | e => return [← k.scalar e]

/-! ## statements -/

/-- a round of a loop: whether the loop goes on -/
def roundOf (label : Text) (x : Run Unit) : Nat → Run Bool
  | 0 => return false
  | n + 1 => do
    round
    let mine := fun (l : Text) => l == [] || l == label
    let r ← tryCatch (do
        x
        pure (some true)) fun s => do
      match s with
      | .next l => if mine l then pure (some true) else throw s
      | .leave l => if mine l then pure (some false) else throw s
      | .redo l => if mine l then pure none else throw s
      | s => throw s
    match r with
    | some b => return b
    | none => roundOf label x n

/-- rounds of a loop up to one that ends it, in at most so many rounds -/
def rounds (test : Run Bool) (one : Run Bool) (after : Run Unit) : Nat → Run Unit
  | 0 => return
  | n + 1 => do
    if ← test then
      if ← one then
        after
        rounds test one after n

/-- a block with its own variables, which are put back after each round; matches stay known -/
def roundBody (x : Run Unit) : Run Unit := do
  let depth := (← seen (·.saved)).length
  let scope := (← seen (·.scope))
  let restore : Run Unit := do
    if (← seen (·.saved)).length ≠ depth then putBack depth
    modify fun m => { m with scope := scope }
  tryCatch x fun s => do
    restore
    throw s
  restore

def effect (h : Helpers) (k : Meaning) (e : Expr) : Run Unit := do
  match e with
  | .call name args bare => discard (callName h k .nothing name args bare)
  | .callBehind f args => discard (callValue h k .nothing (← k.scalar f) args)
  | .method o name args => discard (callMethod k .nothing (← k.scalar o) name args)
  | .my xs _ => for x in xs do discard (declare x)
  | e => discard (k.scalar e)

def wanted (h : Helpers) (k : Meaning) (want : Want) (e : Expr) : Run (List Value) := do
  match want with
  | .nothing =>
    effect h k e
    return []
  | .scalar => return [← k.scalar e]
  | .list => k.list e

def exec (h : Helpers) (k : Meaning) (want : Want) (s : Stmt) : Run (List Value) := do
  let at_ := fun (l : Nat) => modify fun (m : Memory) => { m with line := l }
  let quiet := fun (ss : List Stmt) => discard (k.body .nothing ss)
  let truly := fun (e : Option Expr) => do
    match e with
    | none => return true
    | some e => return (← k.scalar e).holds
  match s with
  | .expr l e =>
    at_ l
    wanted h k want e
  | .test l e yes no =>
    at_ l
    let v ← k.scalar e
    if v.holds then within (k.body want yes)
    else if no.isEmpty then return if want == .nothing then [] else [v]
    else within (k.body want no)
  | .loop l label sense late e body continued =>
    let test : Run Bool := do
      if l ≠ 0 then at_ l
      return (← truly e) == sense
    let one := roundOf label (roundBody (quiet body)) countless
    let after := if continued.isEmpty then pure () else roundBody (quiet continued)
    if late then
      quiet body
      rounds test (do
        quiet body
        return true) (pure ()) countless
    else within (rounds test one after countless)
    return []
  | .steps l label first test next body =>
    let maybe := fun (e : Option Expr) => do
      match e with
      | none => pure ()
      | some e => effect h k e
    within do
      at_ l
      maybe first
      rounds (truly test) (roundOf label (roundBody (quiet body)) countless) (maybe next) countless
    return []
  | .each l label x e body =>
    at_ l
    within do
      let cs ← k.cells e
      let go := fun (bind : Nat → Run Unit → Run Unit) => do
        let rec all : List Nat → Run Unit
          | [] => return
          | c :: cs => do
            if ← roundOf label (bind c (roundBody (quiet body))) countless then all cs
        all cs
      match x with
      | none => go fun c y => withGlobal (.scalar, ['_']) c y
      | some (own, x) =>
        let scope := (← seen (·.scope))
        if own ∨ (scope.lookup (.scalar, x)).isSome then
          go fun c y => do
            modify fun m => { m with scope := ((.scalar, x), c) :: scope }
            y
        else go fun c y => withGlobal (.scalar, x) c y
    return []
  | .bare _ label body =>
    let r ← tryCatch (within (k.body want body)) fun s => do
      let mine := fun (l : Text) => l == [] || l == label
      match s with
      | .next l => if mine l then pure [] else throw s
      | .leave l => if mine l then pure [] else throw s
      | s => throw s
    return r
  | .define name body =>
    let m ← get
    if m.scope.length ≠ m.whole.length then
      let id ← newCode (.own m.package name (some m.scope) body)
      modify fun m => { m with subs := Shell.put (qualified m.package name) id m.subs }
    return []
  | .package name =>
    modify fun m => { m with package := name }
    return []
  | .final _ => return []

/-- statements in order; the values of the last one may be wanted -/
def execAll (h : Helpers) (k : Meaning) (want : Want) : List Stmt → Run (List Value)
  | [] => return []
  | [s] => do
    receive k 100
    let vs ← exec h k want s
    receive k 100
    return vs
  | s :: ss => do
    receive k 100
    discard (exec h k .nothing s)
    execAll h k want ss

end Run

def meaning (h : Helpers) : Nat → Meaning
  | 0 =>
    { scalar := fun _ => return .absent
      list := fun _ => return []
      place := fun _ => Run.newCell .absent
      cells := fun _ => return []
      array := fun _ => Run.newArray []
      hash := fun _ => Run.newHash []
      body := fun _ _ => return []
      call := fun _ _ _ => return [] }
  | n + 1 =>
    { scalar := fun e => Run.scalarOf h (meaning h n) e
      list := fun e => Run.listOf h (meaning h n) e
      place := fun e => Run.placeOf (meaning h n) e
      cells := fun e => Run.cellsOf (meaning h n) e
      array := fun e => Run.arrayAt (meaning h n) e
      hash := fun e => Run.hashAt (meaning h n) e
      body := fun w ss => Run.execAll h (meaning h n) w ss
      call := fun w id cs => Run.callCode h (meaning h n) w id cs }

end Perl
end Shell
end CoroBridge
