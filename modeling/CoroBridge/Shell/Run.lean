import CoroBridge.Shell.Process
import CoroBridge.Shell.Program.Awk
import CoroBridge.Shell.Program.Find
import CoroBridge.Shell.Program.Perl
import CoroBridge.Shell.Reader

/-!
# Command language: running

What commands do, one after the other.

* `Stance`             where a command stands among others;
* `Act.remember`       the paths of programs, as `hash` keeps them;
* `Act.described`      what a name stands for;
* `Act.run`            a command done;
* `Act.runText`        the commands of a text done.
-/

namespace CoroBridge
namespace Shell

/-! ## stances -/

structure Stance where
  tested : Bool
  final : Bool
  deriving DecidableEq, Repr

namespace Stance

def before (k : Stance) : Stance := { k with final := false }

def test : Stance := ⟨true, false⟩

def plain : Stance := ⟨false, false⟩

def last : Stance := ⟨false, true⟩

end Stance

namespace Act

/-! ## commands -/

def replaces (final : Bool) : Act Bool := do
  return final && (← get).traps.all (·.2 == [])

def withPath (bindings : List (Text × Variable)) : List (Text × Variable) :=
  if (bindings.lookup "PATH".toList).isSome then bindings
  else bindings ++ [("PATH".toList, ⟨some usualPath, false, false⟩)]

/-- a state in which a program takes the place of a script -/
def takenOver (s : State) : State :=
  { s with
    ignored := s.ignored ++ (s.traps.filter (·.2 == [])).map Prod.fst
    traps := [], kept := [], functions := [], aliases := [], jobs := [] }

def runners : List Text :=
  [".", "command", "eval", "exec", "hash", "kill", "type"].map String.toList

def described (brief : Bool) (name : Text) : Act (Option Text) := do
  let s ← get
  let told := fun (short long : Text) => some (if brief then short else name ++ " is " ++ long)
  if keywords.contains name then return told name "a shell keyword"
  else if specialNames.contains name then return told name "a special shell builtin"
  else if (s.functions.lookup name).isSome then return told name "a shell function"
  else if (Builtin.plainBuiltins.lookup name).isSome ∨ runners.contains name then
    return told name "a shell builtin"
  else if '/' ∈ name then
    return if (s.files.find? name).isSome then told name name else none
  else
    match s.tracked.lookup name with
    | some path => return told path ("a tracked alias for " ++ path)
    | none =>
      track name
      match (← get).tracked.lookup name with
      | some path => return told path path
      | none => return none

def describe (brief : Bool) (names : List Text) : Act Unit := do
  finish 0
  for name in names do
    match ← described brief name with
    | some t => discard (write 1 (t ++ ['\n']))
    | none =>
      if !brief then
        let t : Text := name ++ ": not found\n"
        discard (write 1 t)
      finish 127

def remember (args : List Text) : Act Unit := do
  match args with
  | [] =>
    discard (write 1 (withEnds ((← get).tracked.map Prod.snd)))
    finish 0
  | ['-', 'r'] :: _ =>
    modify fun s => { s with tracked := [] }
    finish 0
  | ('-' :: c :: _) :: _ =>
    complain "hash" ("Illegal option -" ++ [c])
    finish 2
  | names =>
    finish 0
    for name in names do
      let s ← get
      let known := (s.functions.lookup name).isSome || (Builtin.plainBuiltins.lookup name).isSome
        || runners.contains name
      if !known then
        track name
        if ((← get).tracked.lookup name).isNone then
          complain "hash" (name ++ ": not found")
          finish 1

/-- the program of a command's first word remembered, where it is written plainly -/
def trackFirst : Command → Act Unit
  | .simple _ _ (w :: _) _ => do
    match Word.plain? w with
    | some name =>
      let s ← get
      if (s.functions.lookup name).isNone && (Builtin.plainBuiltins.lookup name).isNone then
        track name
    | none => return
  | _ => return

/-- a built-in command done; a special one that refuses its arguments ends the script -/
def useBuiltin (name : Text) (special : Bool) (b : Builtin) (args : List Text) : Act Unit := do
  match ← (b args).run with
  | .ok () => return
  | .error what =>
    complain name what
    if special then exit 2 else finish 2

mutual

def run : Nat → Stance → Command → Act Unit
  | 0, _, _ => exit 2
  | n + 1, k, c => do
    match c with
    | .simple line assigns words rs =>
      modify fun s => { s with line := line }
      turn commandTime
      simple n k.final assigns words rs
      deliver n
      check k.tested
    | .pipeline negated stages =>
      match stages with
      | [c] => run n .test c
      | _ =>
        for c in stages do trackFirst c
        pipeline (stages.map fun c => withEnd n (run n .last c))
      deliver n
      if negated then finish (if (← get).status = 0 then 1 else 0)
      else check k.tested
    | .joined onSuccess a b =>
      run n .test a
      if ((← get).status == 0) == onSuccess then run n k b
    | .sequence a b =>
      run n k.before a
      run n k b
    | .background c =>
      let empty ← addChannel (.device .null)
      let id ← fork
        (fun s => led 0 empty { s with ignored := [2, 3] ++ s.ignored })
        (withEnd n (run n .last c))
      modify fun s =>
        { s with jobs := s.jobs ++ [⟨id, none, false⟩], lastJob := some id, status := 0 }
      deliver n
    | .nested c => apart n k [] c
    | .redirected line c rs =>
      modify fun s => { s with line := line }
      match c with
      | .nested c => apart n k rs c
      | c =>
        withDescriptors do
          if ← redirect (output n) rs then run n k.before c else finish 2
        check k.tested
    | .conditional test yes no =>
      run n .test test
      if (← get).status = 0 then run n k yes
      else
        match no with
        | some no => run n k no
        | none => finish 0
    | .loop wanted test body =>
      loop n wanted k.before test body 0
    | .each line name words body =>
      modify fun s => { s with line := line }
      let texts ←
        match words with
        | some ws => arguments (output n) ws
        | none => (fun s => s.args) <$> get
      finish 0
      each n k.before name texts body
    | .choice line subject cases =>
      modify fun s => { s with line := line }
      let t ← wordText (output n) subject
      finish 0
      choose n k t cases
    | .define name body =>
      modify fun s => { s with functions := Shell.put name body s.functions }
      finish 0

/-- commands done in a process of their own, where their redirections are made too -/
def apart : Nat → Stance → List Redirect → Command → Act Unit
  | 0, _, _, _ => exit 2
  | n + 1, k, rs, c => do
    let act : Act Unit := do
      if ← redirect (output n) rs then withEnd n (run n ⟨k.tested, true⟩ c) else exit 2
    if ← replaces k.final then act
    else
      nested act
      deliver n
      check k.tested

/-- what commands write in a process of their own -/
def output : Nat → Option Command → Act Text
  | 0, _ => exit 2
  | n + 1, body =>
    match body with
    | none => do
      modify fun s => { s with outputStatus := 0 }
      return []
    | some c => do
      let t ← capture (withEnd n (run n .last c))
      deliver n
      return t

/-- an action and then the command that waits for the end of its process -/
def withEnd : Nat → Act Unit → Act Unit
  | 0, _ => exit 2
  | n + 1, act => do
    let ended ← outcome act
    match ended with
    | some (.ended (.signal k)) => throw (.ended (.signal k))
    | _ =>
      let s ← get
      let status := match ended with
        | some (.ended (.status k)) => k
        | _ => s.status
      finish status
      match s.traps.lookup 0 with
      | some a =>
        modify fun s => { s with traps := s.traps.filter (·.1 != 0) }
        runText n 1 a
        exit status
      | none => exit status

/-- the rounds of a loop, after a round with some status -/
def loop : Nat → Bool → Stance → Command → Command → Nat → Act Unit
  | 0, _, _, _, _, _ => exit 2
  | n + 1, wanted, stance, test, body, last => do
    modify fun s => { s with loops := s.loops + 1 }
    let out ← outcome do
      run n .test test
      if ((← get).status == 0) == wanted then run n stance body
      else
        finish last
        throw (.leave 1)
    modify fun s => { s with loops := s.loops - 1 }
    match out with
    | none => loop n wanted stance test body (← get).status
    | some (.again 1) => loop n wanted stance test body (← get).status
    | some (.leave 1) => return
    | some (.leave (k + 1)) => throw (.leave k)
    | some (.again (k + 1)) => throw (.again k)
    | some f => throw f

def each : Nat → Stance → Text → List Text → Command → Act Unit
  | 0, _, _, _, _ => exit 2
  | n + 1, stance, name, texts, body => do
    match texts with
    | [] => return
    | t :: ts =>
      assign name t
      modify fun s => { s with loops := s.loops + 1 }
      let out ← outcome (run n stance body)
      modify fun s => { s with loops := s.loops - 1 }
      match out with
      | none => each n stance name ts body
      | some (.again 1) => each n stance name ts body
      | some (.leave 1) => return
      | some (.leave (k + 1)) => throw (.leave k)
      | some (.again (k + 1)) => throw (.again k)
      | some f => throw f

/-- the first case done of which a pattern matches -/
def choose : Nat → Stance → Text → List Case → Act Unit
  | 0, _, _, _ => exit 2
  | n + 1, stance, t, cases => do
    match cases with
    | [] => return
    | .mk patterns body :: rest =>
      let matching ← patterns.anyM fun w => do
        return accepts (patternOf (← items (output n) w)) t
      if matching then
        match body with
        | some c => run n stance c
        | none => return
      else choose n stance t rest

/-- a simple command done, in the place of this process where it is `final` -/
def simple : Nat → Bool → List (Text × Word) → List Word → List Redirect → Act Unit
  | 0, _, _, _, _ => exit 2
  | n + 1, final, assigns, words, rs => do
    modify fun s => { s with outputStatus := 0 }
    let args ← arguments (output n) words
    match args with
    | [] =>
      withDescriptors do
        if ← redirect (output n) rs then
          let shown ← assignAll (output n) false assigns
          if shown ≠ [] then trace shown
          finish (← get).outputStatus
        else finish 2
    | [['e', 'x', 'e', 'c']] =>
      discard (assignAll (output n) false assigns)
      if ← redirect (output n) rs then finish 0 else exit 2
    | name :: rest =>
      let special := name ∈ specialNames
      let before := (← get).bindings
      withDescriptors do
        if ← redirect (output n) rs then
          let function := (← get).functions.lookup name
          let shown ← assignAll (output n) (!special) assigns
          trace (shown ++ args)
          match if special then none else function with
          | some body => call n body rest
          | none => perform n final name rest
        else if special then exit 2
        else finish 2
      if !special ∧ assigns ≠ [] then
        modify fun s =>
          { s with bindings := assigns.foldl (fun vs a =>
            match before.lookup a.1 with
            | some v => Shell.put a.1 v vs
            | none => vs.filter (·.1 != a.1)) s.bindings }

def call : Nat → Command → List Text → Act Unit
  | 0, _, _ => exit 2
  | n + 1, body, args => do
    let s ← get
    if s.hidden.length ≥ 1000 then fail [] "Maximum function recursion depth (1000) reached"
    set { s with args := args, loops := 0, hidden := [] :: s.hidden }
    let out ← outcome (run n .plain body)
    modify fun s' =>
      let frame := s'.hidden.headD []
      { s' with
        args := s.args, loops := s.loops, hidden := s'.hidden.drop 1
        bindings := frame.foldl (fun vs p =>
          match p.2 with
          | some v => Shell.put p.1 v vs
          | none => vs.filter (·.1 != p.1)) s'.bindings }
    match out with
    | some .back => return
    | some f => throw f
    | none => return

/-- a command that is no function done with its arguments -/
def perform : Nat → Bool → Text → List Text → Act Unit
  | 0, _, _, _ => exit 2
  | n + 1, final, name, args => do
    let special := name ∈ specialNames
    match Builtin.plainBuiltins.lookup name with
    | some b => useBuiltin name special b args
    | none =>
      match String.ofList name with
      | "eval" =>
        if args.all (· == []) then finish 0
        else
          let line := (← get).line
          withAbout "eval" (runText n 1 (List.intercalate [' '] args))
          modify fun s => { s with line := line }
      | "." => source n args
      | "exec" =>
        match args with
        | [] => finish 0
        | name :: args =>
          match ← program n true name args with
          | none => exit (← get).status
          | some (reason, status) =>
            complain "exec" (name ++ ": " ++ reason)
            exit status
      | "hash" => remember args
      | "kill" => kill n args
      | "type" => describe false args
      | "command" =>
        match args with
        | [] => finish 0
        | ['-', 'v'] :: names => describe true (names.take 1)
        | ['-', 'V'] :: names => describe false (names.take 1)
        | ['-', 'p'] :: [] => finish 0
        | ['-', 'p'] :: name :: args => perform n final name args
        | ['-', 'p', 'v'] :: names => describe true (names.take 1)
        | ('-' :: c :: _) :: _ =>
          complain "command" ("Illegal option -" ++ [c])
          finish 2
        | name :: args =>
          match Builtin.plainBuiltins.lookup name with
          | some b => useBuiltin name false b args
          | none =>
            tryCatch (perform n final name args) fun f =>
              if name = ['.'] ∧ f = .ended (.status 2) then finish 2 else throw f
      | _ =>
        track name
        match ← program n (← replaces final) name args with
        | none => return
        | some (reason, status) =>
          complain [] (name ++ ": " ++ reason)
          finish status

def source : Nat → List Text → Act Unit
  | 0, _ => exit 2
  | n + 1, args => do
    match args with
    | [] => finish 0
    | path :: _ =>
      let s ← get
      let places := if '/' ∈ path then [[]] else programPlaces s
      let paths := places.map fun (d : Text) => if d = [] then path else d ++ '/' :: path
      let texts := paths.filterMap fun p =>
        match s.files.find? p with
        | some (.file t _) => some (p, t)
        | _ => none
      match texts with
      | (p, t) :: _ =>
        let out ← outcome (withAbout p (runText n 1 t))
        match out with
        | some .back => return
        | some f => throw f
        | none => modify fun s' => { s' with line := s.line }
      | [] =>
        if '/' ∈ path then
          match s.files.find path with
          | .ok _ => finish 0
          | .error f => fail "." (openingFault true path f)
        else fail "." (path ++ ": not found")

/-- another program done with its arguments, in the place of this one where `last`; the reason why
there is none and the status, if there is none of this name -/
def program : Nat → Bool → Text → List Text → Act (Option (Text × Nat))
  | 0, _, _, _ => exit 2
  | n + 1, last, name, args => do
    match ← found name with
    | .error f => return some (missing name f)
    | .ok (x, _) =>
      let act : Act Unit := do
        modify takenOver
        execute n x args
        exit (← get).status
      if last then act else nested act
      return none

/-- a program done with its arguments in the place of this process -/
def execute : Nat → Executable → List Text → Act Unit
  | 0, _, _ => exit 2
  | n + 1, x, args => do
    match x with
    | .script path t =>
      turn programTime
      interpret n path args [] t
    | .tool name =>
      match tool? name with
      | some run =>
        useTool run name args
        if name = "sleep".toList ∧ (← get).status = 0 then
          turn (((args.mapM duration?).map fun ns => ns.foldl (· + ·) 0).getD 0 / 1000)
      | none =>
        turn programTime
        match String.ofList name with
        | "env" => environment n args
        | "xargs" => collect n args
        | "nohup" => wrapped n "nohup" args
        | "nice" => wrapped n "nice" (match args with
          | ['-', 'n'] :: _ :: rest => rest
          | _ => args)
        | "setsid" => wrapped n "setsid" args
        | "stdbuf" => wrapped n "stdbuf" (args.dropWhile fun a => a.head? == some '-')
        | "timeout" => timed n args
        | "find" =>
          find (fun command => do
            return statusOf (← join (← fork id
              (wrapped n "find" command *> (do exit (← get).status))))) args
        | "awk" => awk (fun t => interpreter n ["-c", t] *> (do exit (← get).status)) args
        | "mawk" => awk (fun t => interpreter n ["-c", t] *> (do exit (← get).status)) args
        | "perl" =>
          perl ⟨fun t => interpreter n ["-c", t] *> (do exit (← get).status),
            fun name args => program n true name args⟩ args
        | _ => interpreter n args

/-- a program named in arguments done in the place of this process, by a tool that complains if
there is none -/
def wrapped : Nat → Text → List Text → Act Unit
  | 0, _, _ => exit 2
  | n + 1, tool, args => do
    let missing := fun (t : Text) => discard (write 2 t)
    match args with
    | [] =>
      missing (tool ++ ": missing operand\nTry '" ++ tool ++ " --help' for more information.\n")
      finish 125
    | name :: args =>
      match ← program n true name args with
      | none => return
      | some (reason, status) =>
        let reason : Text := if status = 127 then PathFault.missing.message else reason
        let what : Text :=
          if tool = "xargs".toList then name
          else if tool = "env".toList then shownAlways name
          else "failed to run command " ++ shownAlways name
        missing (tool ++ ": " ++ what ++ ": " ++ reason ++ "\n")
        finish status

/-- a program named in arguments done with other variables -/
def environment : Nat → List Text → Act Unit
  | 0, _ => exit 2
  | n + 1, args => do
    let table : OptionTable :=
      { OptionTable.of "i0v" "uCS" [("ignore-environment", 'i'), ("null", '0'), ("unset", 'u'),
        ("chdir", 'C'), ("split-string", 'S'), ("debug", 'v')] with ordered := true }
    match table.read none args with
    | .error f =>
      let t : Text := "env: " ++ f.message ++ "\nTry 'env --help' for more information.\n"
      discard (write 2 t)
      finish 125
    | .ok o =>
      let (alone, operands) := match o.operands with
        | ['-'] :: rest => (true, rest)
        | rest => (o.has 'i', rest)
      let sets := operands.takeWhile fun a => a.contains '='
      let rest := operands.drop sets.length
      let gone := o.values 'u'
      modify fun s => { s with bindings := s.bindings.filter fun p =>
        !(p.2.exported && (alone || gone.contains p.1)) }
      for a in sets do
        let (x, v) := Builtin.nameAndValue a
        modify fun s => { s with bindings := Shell.put x ⟨v, true, false⟩ s.bindings }
      match rest with
      | [] =>
        let ending := if o.has '0' then '\x00' else '\n'
        let rows := (exportedOf (← get)).map fun p => p.1 ++ '=' :: p.2
        useTool (Tool.losing (lostWith 125) fun _ => writing (withEndings ending rows)) "env" []
      | _ => wrapped n "env" rest

/-- a program done with the words of the input as further arguments -/
def collect : Nat → List Text → Act Unit
  | 0, _ => exit 2
  | n + 1, args => do
    match Gathering.of args with
    | .error what =>
      discard (write 2 ("xargs: " ++ what))
      finish 1
    | .ok g =>
      let input := (← takeAll 0).toOption
      match g.calls (input.getD []) with
      | .error what =>
        discard (write 2 ("xargs: " ++ what))
        finish 1
      | .ok calls =>
        let k ← addChannel (.device .null)
        gather n k g.shows 0 calls
        if input.isNone then
          let reason : Text := if (← channel? 0).isNone then ": Bad file descriptor\n" else "\n"
          discard (write 2 ("xargs: error closing file" ++ reason))
          finish 1

/-- programs done one after the other, with an empty input; the status tells whether one has
failed -/
def gather : Nat → Nat → Bool → Nat → List (List Text) → Act Unit
  | 0, _, _, _, _ => exit 2
  | n + 1, k, shows, worst, calls => do
    match calls with
    | [] => finish worst
    | args :: calls =>
      if shows then
        let t : Text := List.intercalate [' '] args ++ ['\n']
        discard (write 2 t)
      let act := wrapped n "xargs" args *> (do exit (← get).status)
      match ← join (← fork (led 0 k) act) with
      | .status 0 => gather n k shows worst calls
      | .status 255 =>
        let t : Text :=
          "xargs: " ++ args.headD [] ++ ": exited with status 255; aborting\n"
        discard (write 2 t)
        finish 124
      | .status m => if m = 126 ∨ m = 127 then finish m else gather n k shows 123 calls
      | .signal m =>
        let t : Text := "xargs: " ++ args.headD [] ++ ": terminated by signal " ++ Text.ofNat m
          ++ "\n"
        discard (write 2 t)
        finish 125

/-- a program done that is sent a signal after some time -/
def timed : Nat → List Text → Act Unit
  | 0, _ => exit 2
  | n + 1, args => do
    let table : OptionTable :=
      { OptionTable.of "fpv" "ks" [("kill-after", 'k'), ("signal", 's'), ("foreground", 'f'),
        ("preserve-status", 'p'), ("verbose", 'v')] with ordered := true }
    let refuse := fun (t : Text) => do
      discard (write 2 ("timeout: " ++ t ++ "Try 'timeout --help' for more information.\n"))
      finish 125
    match table.read none args with
    | .error f => refuse (f.message ++ "\n")
    | .ok o =>
      match o.operands with
      | [] => refuse "missing operand\n"
      | [_] => refuse "missing operand\n"
      | limit :: command =>
        let signal := match o.value? 's' with
          | some a => Signal.number? ((Text.after? "SIG" (a.map Char.toUpper)).getD a)
          | none => some 15
        match duration? limit, (o.value? 'k').map duration?, signal with
        | _, some none, _ =>
          refuse ("invalid time interval " ++ quoted ((o.value? 'k').getD []) ++ "\n")
        | _, _, none => refuse (quoted ((o.value? 's').getD []) ++ ": invalid signal\n")
        | none, _, _ => refuse ("invalid time interval " ++ quoted limit ++ "\n")
        | some limit, later, some signal =>
          let id ← fork id (wrapped n "timeout" command *> (do exit (← get).status))
          let finished := fun (w : World) => !w.lives id
          if limit ≠ 0 then pause ⟨finished, some (limit / 1000), false⟩
          if finished (← get).toWorld then throw (.ended (← join id))
          else
            for p in (← get).family id do post p signal
            if signal = 9 then throw (.ended (.signal 9))
            match later.join with
            | some later =>
              pause ⟨finished, some (later / 1000), false⟩
              if !finished (← get).toWorld then
                for p in (← get).family id do post p 9
                throw (.ended (.signal 9))
            | none => pure ()
            let e ← join id
            let status := if o.has 'p' ∨ e = .signal 9 then statusOf e else 124
            finish status

/-- a script of its own, given in the arguments, in a file or in the input -/
def interpreter : Nat → List Text → Act Unit
  | 0, _ => exit 2
  | n + 1, args => do
    let refuse := fun (t : Text) => do
      discard (write 2 (t ++ ['\n']))
      finish 2
    match Invocation.of args with
    | .error what => refuse ("sh: 0: " ++ what)
    | .ok i =>
      if i.fromText then
        match i.operands with
        | t :: rest => interpret n (rest.headD "sh") (rest.drop 1) i.options t
        | [] => refuse "sh: 0: -c requires an argument"
      else
        match if i.fromInput then none else i.operands.head? with
        | none => interpret n "sh" i.operands i.options ((← takeAll 0).toOption.getD [])
        | some path =>
          match (← get).files.read path with
          | .ok t => interpret n path (i.operands.drop 1) i.options t
          | .error f =>
            refuse (if f.opened then path ++ ": 0: " ++ f.reason.message
              else "sh: 0: " ++ openingFault true path f.reason)

def interpret : Nat → Text → List Text → List Char → Text → Act Unit
  | 0, _, _, _, _ => exit 2
  | n + 1, name, args, options, t => do
    modify fun s =>
      { s with
        shell := s.process, name := name, about := [], args := args, hidden := []
        bindings := Shell.put "PPID" ⟨some (Text.ofNat s.parent), false, false⟩
          (shellVariables ++ withPath (s.bindings.filter fun p =>
            p.2.exported && (shellVariables.lookup p.1).isNone))
        status := 0, loops := 0, lastJob := none, optionPlace := none, options := options, line := 1 }
    withEnd n (runText n 1 t)

def receive : Nat → Nat → Act Unit
  | 0, _ => exit 2
  | n + 1, k => do
    let s ← get
    match s.reaction k with
    | .usual => if Signal.ends k then throw (.ended (.signal k))
    | .nothing => return
    | .commands t =>
      runText n 1 t
      modify fun s' => { s' with line := s.line, status := s.status }

/-- the signals received that were sent to this process -/
def deliver : Nat → Act Unit
  | 0 => exit 2
  | n + 1 => do
    let s ← get
    match ((s.pending.filter (·.1 == s.process)).map Prod.snd).min? with
    | none => return
    | some k =>
      set { s with pending := s.pending.erase (s.process, k) }
      receive n k
      deliver n

def kill : Nat → List Text → Act Unit
  | 0, _ => exit 2
  | n + 1, args => do
    let refused := fun (what : Text) => do
      complain "kill" what
      finish 2
    match killing args with
    | .error what => refused what
    | .ok (.names of) =>
      match of with
      | [] =>
        discard (write 1 signalList)
        finish 0
      | a :: _ =>
        match count? a with
        | none => refused ("Illegal number: " ++ a)
        | some k =>
          let k := if k > 128 then k - 128 else k
          if k = 0 ∨ 64 < k then refused ("invalid signal number or exit status: " ++ a)
          else
            discard (write 1 (Signal.word k ++ ['\n']))
            finish 0
    | .ok (.signal k receivers) =>
      let jobs := (← get).jobs
      let number? := fun (a : Text) =>
        if a.head? = some '%' then (Builtin.job? jobs a).map Job.process else count? a
      match receivers.find? fun a => (number? a).isNone with
      | some a =>
        if a.head? = some '%' then refused ("No such job: " ++ a)
        else refused ("Illegal number: " ++ a)
      | none =>
        finish 0
        send n k (receivers.filterMap number?)

def send : Nat → Nat → List Nat → Act Unit
  | 0, _, _ => exit 2
  | n + 1, k, ps => do
    match ps with
    | [] => return
    | p :: ps =>
      let s ← get
      if p = s.process ∧ s.reaction k = .usual then receive n k
      else if (s.process? p).isSome then post p k
      else if k ≠ 0 ∨ (p ≠ 1 ∧ p + 1 ≠ firstProcess) then
        complain "kill" "No such process\n"
        finish 1
      send n k ps

def runText : Nat → Nat → Text → Act Unit
  | 0, _, _ => exit 2
  | n + 1, line, t => runFrom n (.of line t)

/-- the commands that a source still holds done -/
def runFrom : Nat → Source → Act Unit
  | 0, _ => exit 2
  | n + 1, source => do
    match source.next (← get).aliases with
    | .error (f, line) =>
      modify fun s => { s with line := line }
      fail [] f.message
    | .ok (none, _) => return
    | .ok (some none, source) => runFrom n source
    | .ok (some (some c), source) =>
      run n .plain c
      runFrom n source

end

end Act
end Shell
end CoroBridge
