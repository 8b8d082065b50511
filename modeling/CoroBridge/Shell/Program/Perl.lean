import CoroBridge.Shell.Program.Perl.Eval

/-!
# Command language: the program `perl`

A program is done, perhaps for each line of the input.

* `Perl.Invocation`    what the arguments ask for;
* `Perl.Memory.start`  the memory with which a program begins;
* `Perl.run`           a program done;
* `perl`               the program.
-/

namespace CoroBridge
namespace Shell
namespace Perl

/-! ## arguments -/

structure Invocation where
  lines : List Text
  speaks : Bool
  loops : Bool
  prints : Bool
  cuts : Bool
  separator : Option Text
  chomps : Option (Option Text)
  records : Option (Option Text)
  inPlace : Option Text
  modules : List Text
  looks : Bool
  version : Bool
  encoded : Bool
  operands : List Text

inductive Misuse where
  | unknown (t : Text)
  | noCode (c : Char)

/-- the separator of lines that digits ask for; `none` if there is none -/
def recordsOf (t : Text) : Option Text :=
  let n := match t with
    | 'x' :: r => (digitRun 16 r).1
    | r => (octalRun 10 r).1
  if t = [] then some ['\x00']
  else if n = 0 ∧ t.length ≥ 1 ∧ t.all (· == '0') then some (if t.length = 1 then [] else ['\x00'])
  else if n < 256 then some [Char.ofNat n] else none

/-- a module that is asked for, as a line of a program -/
def moduleLine (t : Text) : Text :=
  let (no, t) := match t with
    | '-' :: t => (true, t)
    | t => (false, t)
  let word : Text := if no then "no " else "use "
  match pieceUpTo '=' t with
  | some (m, list) => word ++ m ++ " split(/,/,q\x7b" ++ list ++ "\x7d);"
  | none => word ++ t ++ ";"

/-- an invocation with the letters of an argument, and the arguments that are left -/
def Invocation.letters (i : Invocation) : Nat → Text → List Text →
    Except Misuse (Invocation × List Text)
  | 0, _, as => .ok (i, as)
  | n + 1, t, as =>
    match t with
    | [] => .ok (i, as)
    | c :: r =>
      match c with
      | 'e' => code i c r as
      | 'E' => code { i with speaks := true } c r as
      | 'n' => { i with loops := true }.letters n r as
      | 'p' => { i with loops := true, prints := true }.letters n r as
      | 'a' => { i with loops := true, cuts := true }.letters n r as
      | 'F' =>
        .ok ({ i with loops := true, cuts := true, separator := some r }, as)
      | 'l' =>
        let d := r.takeWhile fun c => (octal? c).isSome
        let with_ := if d = [] then none else some [Char.ofNat (octalRun 3 d).1]
        { i with chomps := some with_ }.letters n (r.drop d.length) as
      | '0' =>
        let d := match r with
          | 'x' :: h => 'x' :: h.takeWhile fun c => (digit? 16 c).isSome
          | r => r.takeWhile fun c => (octal? c).isSome
        { i with records := some (recordsOf d) }.letters n (r.drop d.length) as
      | 'g' => { i with records := some none }.letters n r as
      | 'i' => .ok ({ i with inPlace := some r }, as)
      | 'M' =>
        if r = [] then .ok ({ i with modules := i.modules ++ [moduleLine (as.headD [])] }, as.drop 1)
        else .ok ({ i with modules := i.modules ++ [moduleLine r] }, as)
      | 'm' =>
        .ok ({ i with modules := i.modules ++ ["use " ++ r ++ ['(', ')', ';']] }, as)
      | 'I' => .ok (i, if r = [] then as.drop 1 else as)
      | 'C' =>
        let d := r.takeWhile fun c => c.isDigit || "IOESioDALa".toList.contains c
        { i with encoded := true }.letters n (r.drop d.length) as
      | 'c' => { i with looks := true }.letters n r as
      | 'v' => { i with version := true }.letters n r as
      | '-' => i.letters n r as
      | c =>
        if "wWXtTuUsSf".toList.contains c then i.letters n r as else .error (.unknown (c :: r))
where
  /-- a line of the program -/
  code (i : Invocation) (c : Char) (r : Text) (as : List Text) :
      Except Misuse (Invocation × List Text) :=
    if r = [] then
      match as with
      | t :: as => .ok ({ i with lines := i.lines ++ [t] }, as)
      | [] => .error (.noCode c)
    else .ok ({ i with lines := i.lines ++ [r] }, as)

/-- what the arguments ask for, after what is known of it -/
def Invocation.from_ (i : Invocation) : Nat → List Text → Except Misuse Invocation
  | 0, as => .ok { i with operands := as }
  | n + 1, as =>
    match as with
    | ['-', '-'] :: as => .ok { i with operands := as }
    | ('-' :: c :: r) :: as => do
      let (i, as) ← i.letters (r.length + 2) (c :: r) as
      i.from_ n as
    | as => .ok { i with operands := as }

def Invocation.of (args : List Text) : Except Misuse Invocation :=
  from_ ⟨[], false, false, false, false, none, none, none, none, [], false, false, false, []⟩
    (args.length + 1) args

/-- the text of a program with what surrounds it where it is done for each line -/
def Invocation.whole (i : Invocation) (t : Text) : Text :=
  let modules := i.modules.flatten
  if !i.loops then modules ++ t
  else
    let cut : Text :=
      match i.separator with
      | none => "our @F=split(' ');"
      | some p =>
        match p with
        | '/' :: _ => "our @F=split(" ++ p ++ ");"
        | '"' :: _ => "our @F=split(" ++ p ++ ");"
        | '\x27' :: _ => "our @F=split(" ++ p ++ ");"
        | p => "our @F=split(q\x00" ++ p ++ "\x00);"
    modules ++ "LINE: while (defined($_ = readline ARGV)) \x7b"
      ++ (if i.chomps.isSome then "chomp;".toList else []) ++ (if i.cuts then cut else []) ++ t
      ++ "\n;\x7d" ++ (if i.prints then "continue \x7bprint $_;\x7d".toList else [])

/-! ## what is done before a program -/

/-- the variables and functions that a program has from the start -/
structure Prelude where
  codes : List (Text × Text × List Stmt)
  begins : List (List Stmt)
  finals : List (List Stmt)

/-- what is done before and after a program and the functions in it, in the order in which they
stand; `package` is the one of the place -/
def Prelude.of (package : Text) : Nat → List Stmt → Prelude
  | 0, _ => ⟨[], [], []⟩
  | _, [] => ⟨[], [], []⟩
  | n + 1, s :: ss =>
    let join := fun (p q : Prelude) =>
      (⟨p.codes ++ q.codes, p.begins ++ q.begins, p.finals ++ q.finals⟩ : Prelude)
    let within := fun (bs : List (List Stmt)) =>
      bs.foldl (fun p b => join p (Prelude.of package n b)) ⟨[], [], []⟩
    match s with
    | .package name => Prelude.of name n ss
    | .define name body =>
      join (join ⟨[(package, name, body)], [], []⟩ (within [body])) (Prelude.of package n ss)
    | .final body => join ⟨[], [], [body]⟩ (Prelude.of package n ss)
    | .bare l label body =>
      if label = "BEGIN".toList then join ⟨[], [[.bare l [] body]], []⟩ (Prelude.of package n ss)
      else join (within [body]) (Prelude.of package n ss)
    | .test _ _ yes no => join (within [yes, no]) (Prelude.of package n ss)
    | .loop _ _ _ _ _ body more => join (within [body, more]) (Prelude.of package n ss)
    | .steps _ _ _ _ _ body => join (within [body]) (Prelude.of package n ss)
    | .each _ _ _ _ body => join (within [body]) (Prelude.of package n ss)
    | .expr _ _ => Prelude.of package n ss

/-- statements without those that were done before, where `line` tells that there is a loop around
them that belongs to no line -/
def withoutBegins (ss : List Stmt) : List Stmt :=
  let rest := ss.filter fun
    | .bare _ label _ => label ≠ "BEGIN".toList
    | _ => true
  rest.map fun
    | .loop l label sense late e body more =>
      if label = "LINE".toList then
        .loop 0 label sense late e (body.filter fun
          | .bare _ label _ => label ≠ "BEGIN".toList
          | _ => true) more
      else .loop l label sense late e body more
    | s => s

def Memory.start (file : Text) (p : Program) (i : Invocation) : Memory where
  cells := #[]
  arrays := #[]
  hashes := #[]
  codes := #[]
  blessed := []
  iterators := []
  scope := []
  whole := []
  globals := []
  subs := []
  files :=
    let plain := { OpenFile.none_ with encoded := i.encoded }
    let usual : List (Text × OpenFile) :=
      [("STDIN", { plain with input := some (.of 0) }),
        ("STDOUT", { plain with output := some (.of 1) }),
        ("STDERR", { plain with output := some (.of 2) })]
    let data : List (Text × OpenFile) :=
      (p.data.map fun t =>
        ("DATA".toList, { OpenFile.none_ with input := some ⟨0, t, true⟩ })).toList
    usual ++ data
  selected := "STDOUT"
  lastRead := none
  found := none
  subject := []
  positions := []
  patterns := []
  package := "main"
  file := file
  line := 0
  ranges := Array.replicate p.ranges false
  saved := []
  finals := []
  want := .nothing
  count := 0
  opened := 0
  evaluated := 0
  depth := 0
  lineEnds := false
  inPlace := i.inPlace
  began := false
  seed := 42
  known := p.known
  strict := p.strict

namespace Run

/-- the variables with which a program begins set -/
def setUp (file : Text) (i : Invocation) (args : List Text) (prelude : Prelude) : Run Unit := do
  setSign '/' (match i.records with
    | none => .text ['\n']
    | some none => .absent
    | some (some t) => .text t)
  setSign '"' (.text [' '])
  setSign ';' (.text ['\x1c'])
  setSign '@' (.text [])
  setSign '!' (.dual 0 [])
  setSign '?' (.whole 0)
  setSign '0' (.text file)
  match i.chomps with
  | none => pure ()
  | some none => setSign '\\' (match i.records with
    | some (some t) => .text (if t = [] then "\n\n" else t)
    | _ => .text ['\n'])
  | some (some t) => setSign '\\' (.text t)
  setValues (← global (.array, "ARGV".toList)) (args.map .text)
  let env := Act.exportedOf (← act get)
  setPairs (← global (.hash, "ENV".toList)) (env.flatMap fun p => [.text p.1, .text p.2])
  for (package, name, body) in prelude.codes do
    let id ← newCode (.own package name none body)
    modify fun m => { m with subs := Shell.put (qualified package name) id m.subs }
  modify fun m => { m with finals := prelude.finals }

/-- the statements of a whole program done one after the other -/
def runAll (k : Meaning) : List Stmt → Run Unit
  | [] => return
  | s :: ss => do
    discard (k.body .nothing [s])
    modify fun m => { m with whole := m.scope }
    runAll k ss

/-- the status of a program that a complaint has put an end to -/
def dyingStatus : Run Nat := do
  let fault := (← sign '!').toCount
  let status := (← sign '?').toCount / 256
  return if fault % 256 ≠ 0 then fault % 256 else if status % 256 ≠ 0 then status % 256 else 255

/-- something done up to its end or to a way out of the whole program; the status -/
def upToExit (x : Run Unit) : Run (Option Nat) :=
  tryCatch (do
    x
    pure none) fun s => do
    match s with
    | .exit n => return some n
    | .die v =>
      utter (← textOf v)
      return some (← dyingStatus)
    | .next l => lost "next" l
    | .redo l => lost "redo" l
    | .leave l => lost "last" l
    | .back _ => return none
where
  /-- a way out of a loop where there is none -/
  lost (what label : Text) : Run (Option Nat) := do
    let t : Text := if label = [] then "Can't \"" ++ what ++ "\" outside a loop block"
      else "Label not found for \"" ++ what ++ ' ' :: label ++ "\""
    utter (← complaint t)
    return some 255

/-- what is left to do when a program has ended; the status -/
def finish (k : Meaning) (status : Nat) : Run Nat := do
  let finals := (← seen (·.finals)).reverse
  modify fun m => { m with finals := [] }
  let mut status := status
  for body in finals do
    setSign '?' (.whole status)
    match ← upToExit (runAll k body) with
    | some n => status := n
    | none => status := (← sign '?').toCount % 256
  finishInPlace
  for f in (← seen (·.files)) do
    if f.1 ≠ "STDOUT".toList ∧ f.1 ≠ "STDERR".toList ∧ f.2.output.isSome then
      discard (closeFile f.1)
  if ← flush "STDOUT" then return status
  else
    utter ("Unable to flush stdout: " ++ (← sign '!').toText ++ ['\n'])
    return if status = 0 then 1 else status

def whole (k : Meaning) (file : Text) (i : Invocation) (args : List Text) (p : Program) :
    Run Nat := do
  let prelude := Prelude.of "main" 1000000 p.body
  setUp file i args prelude
  let status ← upToExit do
    for b in prelude.begins do runAll k b
    runAll k (withoutBegins p.body)
  finish k (status.getD 0)

end Run

def versionText : Text :=
  "\nThis is perl 5, version 36, subversion 0 (v5.36.0) built for x86_64-linux-gnu-thread-multi\n"
    ++ "(with 53 registered patches, see perl -V for more detail)\n\n"
    ++ "Copyright 1987-2022, Larry Wall\n\n"
    ++ "Perl may be copied only under the terms of either the Artistic License or the\n"
    ++ "GNU General Public License, which may be found in the Perl 5 source kit.\n\n"
    ++ "Complete documentation for Perl, including FAQ lists, should be found on\n"
    ++ "this system using \"man perl\" or \"perldoc perl\".  If you have access to the\n"
    ++ "Internet, point your browser at https://www.perl.org/, the Perl Home Page.\n\n"

def run (h : Helpers) (file t : Text) (i : Invocation) (args : List Text) : Act Unit := do
  let refuse := fun (what : Text) (status : Nat) => do
    discard (Act.write 2 what)
    Act.finish status
  let t := if (cutAt? "use utf8" (i.modules.flatten ++ t)).isSome then Run.decoded t else t
  let opens : Bool := (cutAt? "use open" t).isSome && (cutAt? ":std" t).isSome
  let i := { i with encoded := i.encoded || opens }
  let missing := if i.modules = [] then none
    else match Program.of file i.speaks i.modules.flatten with
      | .error what =>
        let place := " at " ++ file ++ " line 1"
        some ((what.splitOn '\n').flatMap fun l =>
          match cutAt? place l with
          | some (front, rest) => front ++ rest ++ ['\n']
          | none => if l = [] then [] else l ++ ['\n'])
      | .ok _ => none
  let found : Except Text Program := match missing with
    | some what => .error what
    | none => Program.of file i.speaks (i.whole t)
  match found with
  | .error what =>
    let status := if (cutAt? " in @INC " what).isSome then 2 else 255
    let ending : Text := "Execution of " ++ file ++ " aborted due to compilation errors.\n"
    if i.looks ∧ ending.isSuffixOf what then
      refuse (what.take (what.length - ending.length) ++ file ++ " had compilation errors.\n") 255
    else refuse what status
  | .ok p =>
    if i.looks then refuse (file ++ " syntax OK\n") 0
    else
      let (r, _) ← (Run.whole (meaning h countless) file i args p).run (.start file p i)
      match r with
      | .ok status => Act.finish status
      | .error _ => Act.finish 255

end Perl

def perl (h : Helpers) (args : List Text) : Act Unit := do
  let refuse := fun (what : Text) (status : Nat) => do
    discard (Act.write 2 what)
    Act.finish status
  match Perl.Invocation.of args with
  | .error (.unknown t) =>
    refuse ("Unrecognized switch: -" ++ t ++ "  (-h will show valid options).\n") 29
  | .error (.noCode c) => refuse ("No code specified for -" ++ [c, '.', '\n']) 29
  | .ok i =>
    if i.version then
      discard (Act.write 1 Perl.versionText)
      Act.finish 0
    else if i.lines ≠ [] then
      Perl.run h "-e" (withEnds i.lines) i i.operands
    else
      match i.operands with
      | [] => Perl.run h "-" ((← Act.takeAll 0).toOption.getD []) i []
      | path :: rest =>
        if path = ['-'] then Perl.run h "-" ((← Act.takeAll 0).toOption.getD []) i rest
        else
          match (← get).files.read path with
          | .ok t => Perl.run h path t i rest
          | .error f =>
            refuse ("Can't open perl script \"" ++ path ++ "\": " ++ f.reason.message ++ ['\n']) 2

end Shell
end CoroBridge
