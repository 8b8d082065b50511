import CoroBridge.Shell.Condition
import CoroBridge.Shell.Format
import CoroBridge.Shell.Tool.Options
import CoroBridge.Shell.Variables

/-!
# Command language: built-in commands

The commands that see or change the state of the script, and those that are built in for speed.

* `Builtin`                a command on the state, which may refuse its arguments;
* `echo`, `printf`         texts written;
* `standing?`              what a path of a condition leads to;
* `read`                   a line read and cut into variables;
* `cd`, `trap`, `wait`     the directory at hand, what follows signals, and the end of jobs;
* `getopts`, `umask`       the options of a script, and the mask for new files;
* `plainBuiltins`          the built-in commands that run no others, by name.
-/

namespace CoroBridge
namespace Shell

abbrev Builtin := List Text → ExceptT Text Act Unit

namespace Builtin

def refuse {α : Type} (what : Text) : ExceptT Text Act α := throw what

def finish (status : Nat) : ExceptT Text Act Unit := ExceptT.lift (Act.finish status)

def store (name value : Text) : ExceptT Text Act Unit := do
  let s ← ExceptT.lift (get : Act State)
  if (s.bindings.lookup name).any Variable.fixed then refuse (name ++ ": is read only")
  else ExceptT.lift (Act.assign name value)

def answer (b : Bool) : ExceptT Text Act Unit := finish (if b then 0 else 1)

def say (name : Text) (t : Text) : ExceptT Text Act Unit := do
  if t = [] then finish 0
  else if ← ExceptT.lift (Act.write 1 t) then finish 0
  else
    ExceptT.lift (Act.complain name (name ++ ": I/O error"))
    finish 1

/-- the count that an argument is, or one that stands in for it -/
def countOr (usual : Nat) : List Text → ExceptT Text Act Nat
  | [] => return usual
  | a :: _ =>
    match count? a with
    | some n => return n
    | none => refuse ("Illegal number: " ++ a)

/-! ## output -/

def echo : Builtin := fun args => say "echo" (echoed args)

def printf : Builtin := fun args => do
  let args ← match args with
    | ['-', '-'] :: rest => pure rest
    | ('-' :: c :: _) :: _ => refuse ("Illegal option -" ++ [c])
    | _ => pure args
  match args with
  | [] => refuse "usage: printf format [arg ...]"
  | format :: rest =>
    let p := printed rest.length format rest
    for c in p.complaints do
      ExceptT.lift (Act.complain "printf" c)
    say "printf" p.text
    if p.failed then finish 2 else if p.complaints ≠ [] then finish 1

/-! ## conditions -/

def standing? (s : State) (path : Text) : Option Standing :=
  match Act.descriptor? path with
  | some n =>
    match (s.descriptors.lookup n).bind fun k => s.channels[k]? with
    | some (.file p _ _) => (s.files.at? p).map fun n => .node n p
    | some (.directory p) => some (.node .directory p)
    | some (.device d) => some (.node (.device d) [])
    | some _ => some .pipe
    | none => none
  | none =>
    match s.files.find path, s.files.place path with
    | .ok n, .ok p => some (.node n p)
    | _, _ => none

/-- whether a condition holds; `name` is the one that it was asked under -/
def test (name : Text) : Builtin := fun args => do
  let bracket := name = ['[']
  if bracket ∧ args.getLast? ≠ some [']'] then refuse ConditionFault.noBracket.message
  else
    let s ← ExceptT.lift (get : Act State)
    match holds (standing? s) (if bracket then args.dropLast else args) with
    | .ok b => answer b
    | .error f => refuse f.message

/-! ## reading -/

/-- the characters of a line, each with whether a backslash protects it, and what follows the line;
the truth value tells whether the line is ended -/
def lineOf (raw : Bool) : Text → List (Char × Bool) × Text × Bool
  | [] => ([], [], false)
  | '\\' :: c :: r =>
    if raw then
      if c = '\n' then ([('\\', false)], r, true)
      else
        let (l, rest, ended) := lineOf raw r
        (('\\', false) :: (c, false) :: l, rest, ended)
    else
      let (l, rest, ended) := lineOf raw r
      (if c = '\n' then l else (c, true) :: l, rest, ended)
  | c :: r =>
    if c = '\n' then ([], r, true)
    else
      let (l, rest, ended) := lineOf raw r
      ((c, false) :: l, rest, ended)

/-- a line cut at separators into at most as many parts as there are names -/
def partsOf (separators : Text) : List Text → List (Char × Bool) → List (Text × Text)
  | [], _ => []
  | name :: names, cs =>
    let blank := fun (p : Char × Bool) => !p.2 && separators.contains p.1 && isSpace p.1
    let separates := fun (p : Char × Bool) => !p.2 && separators.contains p.1
    let cs := cs.dropWhile blank
    match names with
    | [] =>
      let kept := (cs.reverse.dropWhile blank).reverse
      let ends := kept.getLast?.any separates && (kept.dropLast.all fun p => !separates p)
      [(name, ((if ends then kept.dropLast else kept)).map Prod.fst)]
    | _ =>
      let part := cs.takeWhile fun p => !separates p
      let rest := (cs.drop part.length).dropWhile blank
      let rest := match rest with
        | p :: r =>
          if separates p ∧ !(cs.drop part.length).isEmpty then r else rest
        | [] => []
      (name, part.map Prod.fst) :: partsOf separators names rest

/-- the options in front of some arguments: letters alone, and letters with a value -/
def lettersOf (plain valued : Text) (args : List Text) : ExceptT Text Act Options :=
  match OptionTable.read ⟨plain, valued, [], [], true⟩ none args with
  | .ok o => return o
  | .error (.letter c) => refuse ("Illegal option -" ++ [c])
  | .error (.owed c) => refuse ("No arg for -" ++ [c] ++ " option")
  | .error _ => refuse "Illegal option --"

def lineBlock : Nat := 128

/-- the characters of the next line of a descriptor, and whether it is ended, after a text that was
read already; what follows the line is left for others -/
def nextLine (raw : Bool) (descriptor : Nat) :
    Nat → Text → Act (Option (List (Char × Bool) × Bool))
  | 0, _ => return none
  | n + 1, before => do
    match ← Act.take descriptor lineBlock with
    | .error _ => return none
    | .ok t =>
      let (l, rest, ended) := lineOf raw (before ++ t)
      if ended then
        Act.giveBack descriptor rest
        return some (l, true)
      else if t = [] then return some (l, false)
      else nextLine raw descriptor n (before ++ t)

def read : Builtin := fun args => do
  let o ← lettersOf "r" "p" args
  let args := o.operands
  if args = [] then refuse "arg count"
  else
    match ← ExceptT.lift (nextLine (o.has 'r') 0 countless []) with
    | none => finish 1
    | some (l, ended) =>
      for p in partsOf (← ExceptT.lift Act.separators) args l do
        if !isVariable p.1 then refuse (p.1 ++ ": bad variable name")
        store p.1 p.2
      answer ended

/-! ## variables and arguments -/

/-- the name and the value of an argument, which may have no value -/
def nameAndValue (a : Text) : Text × Option Text :=
  let name := a.takeWhile (· != '=')
  match a.drop name.length with
  | [] => (name, none)
  | _ :: value => (name, some value)

def requoted (t : Text) : Text :=
  "'" ++ (t.flatMap fun c => if c = '\x27' then "'\"'\"'".toList else [c]) ++ "'"

/-- marks set on variables, which may get values too; `name` is the command -/
def declare (name : Text) (mark : Variable → Variable) (marked : Variable → Bool) : Builtin :=
  fun args => do
    let args := if args.head? = some "-p".toList then args.drop 1 else args
    if args = [] then
      let s ← ExceptT.lift (get : Act State)
      let rows := (s.bindings.filter fun p => marked p.2).map fun p =>
        name ++ ' ' :: p.1 ++ (match p.2.value with | some v => '=' :: requoted v | none => [])
          ++ ['\n']
      say name (rows.mergeSort fun a b => !Text.precedes b a).flatten
    else
      for a in args do
        let (x, v) := nameAndValue a
        if !isVariable x then refuse (x ++ ": bad variable name")
        match v with
        | some v => store x v
        | none => pure ()
        ExceptT.lift (modify fun s =>
          let old := (s.bindings.lookup x).getD ⟨none, false, false⟩
          { s with bindings := Shell.put x (mark old) s.bindings })
      finish 0

def unset : Builtin := fun args => do
  let functions := args.head? = some "-f".toList
  let args := if functions ∨ args.head? = some "-v".toList then args.drop 1 else args
  for a in args do
    if functions then
      ExceptT.lift (modify fun s => { s with functions := s.functions.filter (·.1 != a) })
    else if !isVariable a then refuse (a ++ ": bad variable name")
    else
      let s ← ExceptT.lift (get : Act State)
      if ((s.bindings.lookup a).map Variable.fixed) = some true then
        refuse (a ++ ": is read only")
      ExceptT.lift (set { s with bindings := s.bindings.filter (·.1 != a) })
  finish 0

def local_ : Builtin := fun args => do
  let s ← ExceptT.lift (get : Act State)
  match s.hidden with
  | [] => refuse "not in a function"
  | _ =>
    for a in args do
      let (x, v) := nameAndValue a
      ExceptT.lift (modify fun s =>
        match s.hidden with
        | frame :: frames =>
          if (frame.lookup x).isSome then s
          else { s with hidden := ((x, s.bindings.lookup x) :: frame) :: frames }
        | [] => s)
      match v with
      | some v => store x v
      | none => pure ()
    finish 0

def shift : Builtin := fun args => do
  let n ← countOr 1 args
  let s ← ExceptT.lift (get : Act State)
  if s.args.length < n then refuse "can't shift that many"
  else
    ExceptT.lift (set { s with args := s.args.drop n })
    finish 0

/-- the options with their long names, in the order in which they are told -/
def longOptions : List (Text × Char) :=
  [("errexit", 'e'), ("noglob", 'f'), ("ignoreeof", 'I'), ("interactive", 'i'), ("monitor", 'm'),
    ("noexec", 'n'), ("stdin", 's'), ("xtrace", 'x'), ("verbose", 'v'), ("vi", 'V'),
    ("emacs", 'E'), ("noclobber", 'C'), ("allexport", 'a'), ("notify", 'b'), ("nounset", 'u')]

def setOption (on : Bool) (c : Char) : Act Unit :=
  modify fun s =>
    let order := "ubaCEVvxsnmiIfe".toList
    let options := if on then c :: s.options else s.options.filter (· != c)
    { s with options := order.filter options.contains }

def setLetters (on : Bool) : Text → ExceptT Text Act Unit
  | [] => return
  | c :: r => do
    if (longOptions.map Prod.snd).contains c then
      ExceptT.lift (setOption on c)
      setLetters on r
    else refuse ("Illegal option " ++ [if on then '-' else '+', c])

def silentOptions : List Text := ["privileged", "nolog", "debug"]

/-- the options as they are told, or as they may be set again -/
def toldOptions (again : Bool) (options : Text) : Text :=
  let names := longOptions.map (fun p => (p.1, options.contains p.2))
    ++ silentOptions.map (fun n => (n, false))
  if again then
    withEnds (names.map fun p => "set " ++ (if p.2 then "-o " else "+o ") ++ p.1)
  else
    "Current option settings\n" ++ withEnds (names.map fun p =>
      p.1 ++ List.replicate (16 - p.1.length) ' ' ++ (if p.2 then "on" else "off"))

def toldVariables (s : State) : Text :=
  let rows := s.bindings.filterMap fun p => p.2.value.map fun v => p.1 ++ '=' :: requoted v
  withEnds (rows.mergeSort fun a b => !Text.precedes b a)

def set_ : Builtin := fun args => do
  match args with
  | [] => say "set" (toldVariables (← ExceptT.lift (get : Act State)))
  | ['-', '-'] :: rest => do
    ExceptT.lift (modify fun s => { s with args := rest })
    finish 0
  | ['-'] :: rest => do
    ExceptT.lift (setOption false 'x')
    if rest ≠ [] then ExceptT.lift (modify fun s => { s with args := rest })
    finish 0
  | (sign :: letters) :: rest =>
    if sign = '-' ∨ sign = '+' then
      let on := sign == '-'
      match letters with
      | ['o'] =>
        match rest with
        | [] => say "set" (toldOptions (!on) (← ExceptT.lift (get : Act State)).options)
        | name :: rest =>
          match longOptions.lookup name with
          | some c =>
            ExceptT.lift (setOption on c)
            if rest ≠ [] then set_ rest else finish 0
          | none => refuse ("Illegal option " ++ [sign] ++ "o " ++ name)
      | _ =>
        setLetters on letters
        if rest ≠ [] then set_ rest else finish 0
    else do
      ExceptT.lift (modify fun s => { s with args := args })
      finish 0
  | [] :: _ => do
    ExceptT.lift (modify fun s => { s with args := args })
    finish 0

/-! ## ways out -/

def exit : Builtin := fun args => do
  let s ← ExceptT.lift (get : Act State)
  let n ← countOr s.status args
  ExceptT.lift (Act.exit (n % 256))

def return_ : Builtin := fun args => do
  let s ← ExceptT.lift (get : Act State)
  finish (← countOr s.status args)
  ExceptT.lift (throw Flow.back : Act Unit)

/-- a way out of loops, of as many as there are -/
def leaving (flow : Nat → Flow) : Builtin := fun args => do
  let n ← countOr 1 args
  if n = 0 then refuse ("Illegal number: " ++ args.headD [])
  let s ← ExceptT.lift (get : Act State)
  finish 0
  if s.loops ≠ 0 then ExceptT.lift (throw (flow (min n s.loops)) : Act Unit)

/-! ## places -/

/-- another directory for paths to begin in, which `shown` tells of -/
def enter (shown : Bool) (path : Text) : ExceptT Text Act Unit := do
  let s ← ExceptT.lift (get : Act State)
  match s.files.place path, s.files.find path with
  | .ok p, .ok .directory =>
    let old := (s.bindings.lookup "PWD".toList).bind Variable.value
    ExceptT.lift (set { s with files := { s.files with here := p } })
    store "OLDPWD" (old.getD (Files.path s.files.here))
    store "PWD" (Files.path p)
    if shown then say "cd" (Files.path p ++ ['\n']) else finish 0
  | _, _ => refuse ("can't cd to " ++ path)

def cd : Builtin := fun args => do
  let o ← lettersOf "PL" [] args
  match o.operands with
  | [] =>
    match ← ExceptT.lift (Act.lookup "HOME") with
    | some home => enter false home
    | none => finish 0
  | ['-'] :: _ =>
    match ← ExceptT.lift (Act.lookup "OLDPWD") with
    | some old => enter true old
    | none => refuse "OLDPWD not set"
  | [] :: _ => finish 0
  | path :: _ => enter false path

def pwd : Builtin := fun args => do
  discard (lettersOf "PL" [] args)
  let s ← ExceptT.lift (get : Act State)
  say "pwd" (Files.path s.files.here ++ ['\n'])

/-! ## traps and jobs -/

def trap : Builtin := fun args => do
  let args := if args.head? = some "--".toList then args.drop 1 else args
  let s ← ExceptT.lift (get : Act State)
  let (action, names) : Option Text × List Text := match args with
    | [] => (none, [])
    | [a] => (none, [a])
    | a :: rest =>
      if (number? a).isSome then (none, args) else (if a = ['-'] then none else some a, rest)
  if args = [] then
    say "trap" (s.traps.flatMap fun p =>
      "trap -- " ++ requoted p.2 ++ ' ' :: Signal.word p.1 ++ ['\n'])
  else
    match names.find? fun a => (Signal.number? a).isNone with
    | some a =>
      discard (ExceptT.lift (Act.write 2 ("trap: " ++ a ++ ": bad trap\n")))
      finish 1
    | none =>
      for n in names.filterMap Signal.number? do
        ExceptT.lift (modify fun s =>
          let others := s.traps.filter (·.1 != n)
          { s with traps := match action with
            | some a => (others ++ [(n, a)]).mergeSort fun p q => decide (p.1 ≤ q.1)
            | none => others })
      finish 0

/-- what is told of a process that a signal has ended -/
def tell (e : Ending) : Act Unit := do
  match e with
  | .signal n =>
    match Signal.told? n with
    | some t => discard (Act.write 2 (t ++ ['\n']))
    | none => return
  | .status _ => return

/-- a pause until some processes have ended; the signal that has cut it short, if one has -/
def pauseFor (ids : List Nat) : Act (Option Nat) := do
  let s ← get
  let finished := fun (w : World) => ids.all fun n => !w.lives n
  if !finished s.toWorld then Act.pause ⟨finished, none, true⟩
  let s ← get
  Act.reap
  return if finished s.toWorld then none else (s.pending.find? (·.1 == s.process)).map Prod.snd

/-- a job by its process, or by its place after a percent sign -/
def job? (jobs : List Job) (a : Text) : Option Job :=
  match a with
  | '%' :: r =>
    match r with
    | [] => jobs.getLast?
    | ['%'] => jobs.getLast?
    | ['+'] => jobs.getLast?
    | ['-'] => jobs.dropLast.getLast?
    | _ => (number? r).bind fun n => if n = 0 then none else jobs[n - 1]?
  | _ => (count? a).bind fun n => jobs.find? (·.process == n)

def waitFor : List Text → ExceptT Text Act Unit
  | [] => return
  | a :: as => do
    match job? (← ExceptT.lift (get : Act State)).jobs a with
    | none =>
      if a.head? = some '%' then refuse ("No such job: " ++ a)
      else if (count? a).isNone then refuse ("Illegal number: " ++ a)
      else
        finish 127
        waitFor as
    | some j =>
      match ← ExceptT.lift (pauseFor [j.process]) with
      | some k => finish (128 + k)
      | none =>
        let s ← ExceptT.lift (get : Act State)
        let e := ((s.jobs.find? (·.process == j.process)).bind Job.ending).getD (.status 0)
        if !j.known then ExceptT.lift (tell e)
        ExceptT.lift (modify fun s => { s with
          jobs := s.jobs.map fun k => if k.process = j.process then { k with known := true } else k })
        finish (statusOf e)
        waitFor as

def wait : Builtin := fun args => do
  if args = [] then
    let s ← ExceptT.lift (get : Act State)
    match ← ExceptT.lift (pauseFor (s.jobs.map Job.process)) with
    | some k => finish (128 + k)
    | none =>
      ExceptT.lift (modify fun s =>
        { s with jobs := s.jobs.map fun j => { j with known := true } })
      finish 0
  else waitFor args

def toldEnd : Option Ending → Text
  | none => "Running"
  | some (.status 0) => "Done"
  | some (.status n) => "Done(" ++ Text.ofNat n ++ ")"
  | some (.signal n) => (Signal.told? n).getD "Interrupt"

/-- the jobs told, with their places; those that have ended are forgotten -/
def jobs : Builtin := fun args => do
  let o ← lettersOf "lp" [] args
  ExceptT.lift Act.reap
  let s ← ExceptT.lift (get : Act State)
  let shown := s.jobs.zipIdx.filter fun j => !j.1.known
  let rows := shown.map fun (j : Job × Nat) =>
    let sign := if j.2 + 1 = s.jobs.length then '+' else if j.2 + 2 = s.jobs.length then '-' else ' '
    let front : Text := ['['] ++ Text.ofNat (j.2 + 1) ++ "] " ++ [sign, ' ']
      ++ (if o.has 'l' then Text.ofNat j.1.process ++ [' '] else []) ++ toldEnd j.1.ending
    if o.has 'p' then Text.ofNat j.1.process
    else front ++ List.replicate (33 - front.length) ' '
  ExceptT.lift (modify fun s =>
    { s with jobs := s.jobs.map fun j => { j with known := j.known || j.ending.isSome } })
  say "jobs" (withEnds rows)

/-! ## options of scripts -/

/-- the option that comes next among arguments: its letter, or a question mark, or a colon, its
value, what is told, the number of the next argument, and the place in it; the truth value tells
that there is none -/
def nextOption (letters : Text) (args : List Text) (index : Nat) (place : Option Nat) :
    Char × Option Text × Text × Nat × Option Nat × Bool :=
  let inside : Text :=
    match place with
    | some k => if index ≤ 1 then [] else ((args[index - 2]?).getD []).drop k
    | none => []
  let start : Option (Text × Nat) :=
    if inside ≠ [] then some (inside, index)
    else
      match args[index - 1]? with
      | some ('-' :: c :: r) => some (c :: r, index + 1)
      | _ => none
  let quiet := letters.head? = some ':'
  match start with
  | none => ('?', none, [], index, none, true)
  | some ([], index) => ('?', none, [], index, none, true)
  | some (['-'], index) => ('?', none, [], index, none, true)
  | some (c :: r, index) =>
    let rest : Option Nat :=
      if r = [] then none else some (((args[index - 2]?).getD []).length - r.length)
    let found := c ≠ ':' && letters.contains c
    if !found then
      if quiet then ('?', some [c], [], index, rest, false)
      else ('?', none, "Illegal option -" ++ [c] ++ "\n", index, rest, false)
    else if ((letters.dropWhile (· != c)).drop 1).head? = some ':' then
      if r ≠ [] then (c, some r, [], index, none, false)
      else
        match args[index - 1]? with
        | some v => (c, some v, [], index + 1, none, false)
        | none =>
          if quiet then (':', some [c], [], index, none, false)
          else ('?', none, "No arg for -" ++ [c] ++ " option\n", index, none, false)
    else (c, some [], [], index, rest, false)

def getopts : Builtin := fun args => do
  match args with
  | letters :: name :: rest =>
    let s ← ExceptT.lift (get : Act State)
    let texts := if rest = [] then s.args else rest
    let index := ((← ExceptT.lift (Act.lookup "OPTIND")).bind number?).getD 1
    let index := max index 1
    let (c, value, told, next, place, done) := nextOption letters texts index s.optionPlace
    discard (ExceptT.lift (Act.write 2 told))
    match value with
    | some v => store "OPTARG" v
    | none =>
      if !done then
        ExceptT.lift (modify fun s =>
          { s with bindings := s.bindings.filter (·.1 != "OPTARG".toList) })
    store "OPTIND" (Text.ofNat next)
    store name [c]
    ExceptT.lift (modify fun s => { s with optionPlace := place })
    answer (!done)
  | _ => refuse "Usage: getopts optstring var [arg...]"

/-- the rights that a mask leaves to new files, in letters -/
def rightsOf (mask : Nat) : Text :=
  let rights := fun (k : Nat) =>
    (if k / 4 % 2 = 0 then ['r'] else []) ++ (if k / 2 % 2 = 0 then ['w'] else [])
      ++ (if k % 2 = 0 then ['x'] else [])
  "u=" ++ rights (mask / 64) ++ ",g=" ++ rights (mask / 8) ++ ",o=" ++ rights mask

def umask : Builtin := fun args => do
  let s ← ExceptT.lift (get : Act State)
  let o ← lettersOf "S" [] args
  match o.operands with
  | [] =>
    if o.has 'S' then say "umask" (rightsOf s.mask ++ ['\n'])
    else
      let d := inBase 8 s.mask
      say "umask" (List.replicate (4 - d.length) '0' ++ d ++ ['\n'])
  | a :: _ =>
    if a.head?.any Char.isDigit then
      if a.all fun c => (octal? c).isSome then
        ExceptT.lift (set { s with mask := (octalRun a.length a).1 % 512 })
        finish 0
      else refuse ("Illegal number: " ++ a)
    else if a.contains '=' ∨ a.contains '+' ∨ a.contains '-' then finish 0
    else refuse ("Illegal mode: " ++ a)

def noJob : Builtin := fun _ => refuse "No current job"

def toldAlias (p : Text × Text) : Text := p.1 ++ '=' :: requoted p.2 ++ ['\n']

def alias_ : Builtin := fun args => do
  let s ← ExceptT.lift (get : Act State)
  if args = [] then
    say "alias" ((s.aliases.mergeSort fun a b => !Text.precedes b.1 a.1).flatMap toldAlias)
  else
    finish 0
    for a in args do
      let (name, value) := nameAndValue a
      match value, name with
      | some v, _ :: _ =>
        ExceptT.lift (modify fun s => { s with aliases := Shell.put name v s.aliases })
      | _, _ =>
        match s.aliases.lookup a with
        | some v => discard (ExceptT.lift (Act.write 1 (toldAlias (a, v))))
        | none =>
          discard (ExceptT.lift (Act.write 2 ("alias: " ++ a ++ " not found\n")))
          finish 1

def unalias : Builtin := fun args => do
  let o ← lettersOf "a" [] args
  finish 0
  if o.has 'a' then ExceptT.lift (modify fun s => { s with aliases := [] })
  else
    for a in o.operands do
      if ((← ExceptT.lift (get : Act State)).aliases.lookup a).isNone then
        discard (ExceptT.lift (Act.write 2 ("unalias: " ++ a ++ " not found\n")))
        finish 1
      ExceptT.lift (modify fun s => { s with aliases := s.aliases.filter (·.1 != a) })

/-! ## all -/

def plainBuiltins : List (Text × Builtin) :=
  [(":", fun _ => answer true), ("true", fun _ => answer true), ("false", fun _ => answer false),
    ("echo", echo), ("printf", printf), ("test", test "test"), ("[", test "["), ("read", read),
    ("export", declare "export" (fun v => { v with exported := true }) Variable.exported),
    ("readonly", declare "readonly" (fun v => { v with fixed := true }) Variable.fixed),
    ("unset", unset), ("local", local_), ("shift", shift), ("set", set_), ("exit", exit),
    ("return", return_), ("break", leaving .leave), ("continue", leaving .again), ("cd", cd),
    ("pwd", pwd), ("trap", trap), ("wait", wait), ("umask", umask), ("getopts", getopts),
    ("alias", alias_), ("unalias", unalias), ("jobs", jobs), ("fg", noJob),
    ("bg", noJob), ("times", fun _ => say "times" "0m0.00s 0m0.00s\n0m0.00s 0m0.00s\n"),
    ("ulimit", fun _ => say "ulimit" "unlimited\n")]

end Builtin
end Shell
end CoroBridge
