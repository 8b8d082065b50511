import CoroBridge.Shell.Pattern
import CoroBridge.Shell.Process
import CoroBridge.Shell.Tool.Facts

/-!
# Command language: files found

The program `find` goes through trees of files and does something with those for which an
expression holds.

* `Find.Test`, `Find.Deed`     what is asked of a file, and what is done with it;
* `Find.Expr`                  expressions of them;
* `Find.Search`                the search that arguments describe;
* `Find.search`                a search done, where `run` does a command.
-/

namespace CoroBridge
namespace Shell
namespace Find

/-! ## expressions -/

inductive Test where
  | name (pattern : List Glob) (folds : Bool)
  | path (pattern : List Glob) (folds : Bool)
  | kind (letters : Text)
  | empty
  | size (order : Ordering) (n unit : Nat)
  | rights (all : Option Bool) (n : Nat)
  | runs
  | constant (b : Bool)

inductive Deed where
  | print (ending : Char)
  | format (t : Text)
  | run (command : List Text) (inside : Bool)
  | gather (command : List Text)
  | delete
  | prune
  | quit

inductive Expr where
  | test (t : Test)
  | deed (d : Deed)
  | negation (e : Expr)
  | both (a b : Expr)
  | either (a b : Expr)
  | each (a b : Expr)

/-- whether an expression does something that shows -/
def Expr.acts : Expr → Bool
  | test _ => false
  | deed .prune => false
  | deed .quit => false
  | deed _ => true
  | negation e => e.acts
  | both a b => a.acts || b.acts
  | either a b => a.acts || b.acts
  | each a b => a.acts || b.acts

structure Search where
  paths : List Text
  least : Nat
  most : Option Nat
  late : Bool
  expr : Expr

structure Settings where
  least : Nat
  most : Option Nat
  late : Bool

abbrev Reading := StateT Settings (Except Text)

def refuse {α : Type} (what : Text) : Reading α := throw what

def patternIn (folds : Bool) (t : Text) : List Glob :=
  Glob.of 0 ((if folds then t.map Char.toLower else t).map (·, false))

/-- a number with a sign, which tells how it is compared -/
def comparedNumber (t : Text) : Ordering × Text :=
  match t with
  | '+' :: r => (.gt, r)
  | '-' :: r => (.lt, r)
  | r => (.eq, r)

/-- the size that a text describes, with its unit -/
def sizeTest? (t : Text) : Option Test :=
  let (order, r) := comparedNumber t
  let d := r.takeWhile Char.isDigit
  let unit := match r.drop d.length with
    | [] => some 512
    | ['b'] => some 512
    | ['c'] => some 1
    | ['w'] => some 2
    | ['k'] => some 1024
    | ['M'] => some 1048576
    | ['G'] => some 1073741824
    | _ => none
  match number? d, unit with
  | some n, some u => some (.size order n u)
  | _, _ => none

/-- the command up to its end, and what follows: the truth value tells that it takes many files -/
def commandIn : List Text → List Text → Option (List Text × Bool × List Text)
  | _, [] => none
  | before, a :: as =>
    if a = [';'] then some (before.reverse, false, as)
    else if a = ['+'] ∧ before.head? = some "\x7b\x7d".toList then
      some (before.reverse.dropLast, true, as)
    else commandIn (a :: before) as

/-- a test or a deed, and the arguments after it -/
def primary (a : Text) (as : List Text) : Reading (Expr × List Text) := do
  let name := String.ofList (a.drop 1)
  let missing : Text := "missing argument to `" ++ a ++ "'"
  let value := fun (f : Text → Reading Expr) =>
    match as with
    | v :: as => do return (← f v, as)
    | [] => refuse missing
  let test := fun (t : Test) => (return (.test t, as) : Reading (Expr × List Text))
  let deed := fun (d : Deed) => (return (.deed d, as) : Reading (Expr × List Text))
  let number := fun (v : Text) (f : Nat → Reading Expr) =>
    match number? v with
    | some n => f n
    | none => refuse ("Expected a positive decimal integer argument to " ++ a ++ ", but got "
        ++ quoted v)
  match name with
  | "name" => value fun v => return .test (.name (patternIn false v) false)
  | "iname" => value fun v => return .test (.name (patternIn true v) true)
  | "path" => value fun v => return .test (.path (patternIn false v) false)
  | "wholename" => value fun v => return .test (.path (patternIn false v) false)
  | "ipath" => value fun v => return .test (.path (patternIn true v) true)
  | "type" =>
    value fun v => do
      let letters := v.filter (· != ',')
      match letters.find? fun c => !"bcdpflsD".toList.contains c with
      | some c => refuse ("Unknown argument to -type: " ++ [c])
      | none => return .test (.kind letters)
  | "empty" => test .empty
  | "size" =>
    value fun v =>
      match sizeTest? v with
      | some t => return .test t
      | none => refuse ("invalid -size type `" ++ v ++ "'")
  | "perm" =>
    value fun v =>
      let (all, d) := match v with
        | '-' :: r => (some true, r)
        | '/' :: r => (some false, r)
        | r => (none, r)
      if d ≠ [] ∧ d.all fun c => (octal? c).isSome then
        return .test (.rights all (octalRun d.length d).1)
      else refuse ("invalid mode " ++ quoted v)
  | "executable" => test .runs
  | "readable" => test (.constant true)
  | "writable" => test (.constant true)
  | "true" => test (.constant true)
  | "false" => test (.constant false)
  | "user" => value fun v => return .test (.constant (v == "root".toList || v == ['0']))
  | "group" => value fun v => return .test (.constant (v == "root".toList || v == ['0']))
  | "newer" => value fun _ => return .test (.constant false)
  | "mtime" => value fun v => return .test (.constant (v.head? != some '+'))
  | "mmin" => value fun v => return .test (.constant (v.head? != some '+'))
  | "maxdepth" =>
    value fun v => number v fun n => do
      modify fun s => { s with most := some n }
      return .test (.constant true)
  | "mindepth" =>
    value fun v => number v fun n => do
      modify fun s => { s with least := n }
      return .test (.constant true)
  | "depth" => do
    modify fun s => { s with late := true }
    test (.constant true)
  | "d" => do
    modify fun s => { s with late := true }
    test (.constant true)
  | "xdev" => test (.constant true)
  | "mount" => test (.constant true)
  | "follow" => test (.constant true)
  | "print" => deed (.print '\n')
  | "print0" => deed (.print '\x00')
  | "printf" => value fun v => return .deed (.format v)
  | "prune" => deed .prune
  | "quit" => deed .quit
  | "delete" => do
    modify fun s => { s with late := true }
    deed .delete
  | _ =>
    if name = "exec" ∨ name = "execdir" ∨ name = "ok" then
      match commandIn [] as with
      | some (command, many, as) =>
        if command = [] then refuse missing
        else return (.deed (if many then .gather command else .run command (name == "execdir")), as)
      | none => refuse missing
    else refuse ("unknown predicate `" ++ a ++ "'")

mutual

/-- expressions of which each is done, up to the end or a bracket -/
def readEach : Nat → List Text → Reading (Expr × List Text)
  | 0, _ => refuse "invalid expression"
  | n + 1, as => do
    let (a, as) ← readEither n as
    match as with
    | [','] :: as =>
      let (b, as) ← readEach n as
      return (.each a b, as)
    | _ => return (a, as)

def readEither : Nat → List Text → Reading (Expr × List Text)
  | 0, _ => refuse "invalid expression"
  | n + 1, as => do
    let (a, as) ← readBoth n as
    match as with
    | o :: as' =>
      if o = "-o".toList ∨ o = "-or".toList then
        let (b, as) ← readEither n as'
        return (.either a b, as)
      else return (a, as)
    | [] => return (a, as)

def readBoth : Nat → List Text → Reading (Expr × List Text)
  | 0, _ => refuse "invalid expression"
  | n + 1, as => do
    let (a, as) ← readOne n as
    match as with
    | [] => return (a, as)
    | x :: as' =>
      if x = "-a".toList ∨ x = "-and".toList then
        let (b, as) ← readBoth n as'
        return (.both a b, as)
      else if x = "-o".toList ∨ x = "-or".toList ∨ x = [','] ∨ x = [')'] then return (a, as)
      else
        let (b, as) ← readBoth n as
        return (.both a b, as)

def readOne : Nat → List Text → Reading (Expr × List Text)
  | 0, _ => refuse "invalid expression"
  | n + 1, as => do
    match as with
    | [] => refuse "expected an expression after the last operator"
    | a :: as =>
      if a = ['!'] ∨ a = "-not".toList then
        let (e, as) ← readOne n as
        return (.negation e, as)
      else if a = ['('] then
        let (e, as) ← readEach n as
        match as with
        | [')'] :: as => return (e, as)
        | _ =>
          refuse "invalid expression; I was expecting to find a ')' somewhere but did not see one."
      else if a = [')'] then
        refuse "invalid expression; you have too many ')'"
      else if a.head? = some '-' ∧ a.length > 1 then primary a as
      else refuse ("paths must precede expression: `" ++ a ++ "'")

end

def Search.of (args : List Text) : Except Text Search := do
  let args := args.dropWhile fun a =>
    a == ['-', 'H'] || a == ['-', 'L'] || a == ['-', 'P'] || "-O".toList.isPrefixOf a
  let paths := args.takeWhile fun a =>
    !(a.head? == some '-' && a.length > 1) && a ≠ ['('] && a ≠ ['!']
  let rest := args.drop paths.length
  let paths := if paths = [] then [['.']] else paths
  let start : Settings := ⟨0, none, false⟩
  if rest = [] then .ok ⟨paths, 0, none, false, .deed (.print '\n')⟩
  else
    let ((e, left), s) ← (readEach (4 * rest.length + 4) rest).run start
    match left with
    | [')'] :: _ => .error "invalid expression; you have too many ')'"
    | a :: _ => .error ("paths must precede expression: `" ++ a ++ "'")
    | [] =>
      .ok ⟨paths, s.least, s.most, s.late,
        if e.acts then e else .both e (.deed (.print '\n'))⟩

/-! ## going through a tree -/

/-- a file: its path, its place, how far below the start it is, the path of the start, and what
stands there -/
structure Spot where
  path : Text
  place : Place
  depth : Nat
  top : Text
  node : Node

def Spot.name (x : Spot) : Text :=
  let n := ((Files.trimSlashes x.path).reverse.takeWhile (· != '/')).reverse
  if n = [] then ['/'] else n

def Test.holds (f : Files) (x : Spot) : Test → Bool
  | name p folds => accepts p (if folds then x.name.map Char.toLower else x.name)
  | path p folds => accepts p (if folds then x.path.map Char.toLower else x.path)
  | kind letters =>
    let c := x.node.letter.1
    letters.contains (if c = '-' then 'f' else c)
  | empty =>
    match x.node with
    | .directory => f.names x.place == []
    | .file t _ => t == []
    | _ => false
  | size order n unit => compare ((x.node.size + unit - 1) / unit) n == order
  | rights all n =>
    let r := x.node.rights
    match all with
    | none => r == n
    | some true => r &&& n == n
    | some false => n == 0 || r &&& n != 0
  | runs =>
    match x.node with
    | .directory => true
    | .file _ r => r
    | .program _ => true
    | _ => false
  | constant b => b

def formatted (x : Spot) : Nat → Text → Text
  | 0, _ => []
  | n + 1, t =>
    match t with
    | [] => []
    | '%' :: r =>
      let flags := r.takeWhile fun c => "-+ #0".toList.contains c
      let width := (r.drop flags.length).takeWhile Char.isDigit
      match r.drop (flags.length + width.length) with
      | [] => ['%']
      | c :: r =>
        let parent := (Files.trimSlashes x.path).reverse.dropWhile (· != '/')
        let fact : Text := match c with
          | '%' => ['%']
          | 'p' => x.path
          | 'f' => x.name
          | 'h' => if parent = [] then ['.'] else (parent.drop 1).reverse
          | 'P' => ((Text.after? x.top x.path).getD []).dropWhile (· == '/')
          | 'H' => x.top
          | 'd' => Text.ofNat x.depth
          | 'y' => [if x.node.letter.1 = '-' then 'f' else x.node.letter.1]
          | 'm' => inBase 8 x.node.rights
          | 'M' => x.node.fact x.path 'A'
          | 'k' => Text.ofNat ((x.node.size + 4095) / 4096 * 4)
          | 'b' => Text.ofNat ((x.node.size + 4095) / 4096 * 8)
          | 'n' => x.node.fact x.path 'h'
          | 'l' => []
          | c => x.node.fact x.path c
        let w := digitsValue width
        (if flags.contains '-' then fact ++ List.replicate (w - fact.length) ' '
          else padLeft w fact) ++ formatted x n r
    | '\\' :: 'n' :: r => '\n' :: formatted x n r
    | '\\' :: 't' :: r => '\t' :: formatted x n r
    | '\\' :: '0' :: r => '\x00' :: formatted x n r
    | '\\' :: '\\' :: r => '\\' :: formatted x n r
    | c :: r => c :: formatted x n r

/-- a path in the places where a command has braces -/
def filledIn (path a : Text) : Nat → Text
  | 0 => a
  | n + 1 =>
    match cutAt? "\x7b\x7d" a with
    | some (front, back) => front ++ path ++ filledIn path back n
    | none => a

/-- the course of a search: whether something below the last file is left out, whether it is over,
files that wait for a command, and the status -/
structure Course where
  pruned : Bool
  finished : Bool
  waiting : List (List Text × List Text)
  status : Nat

def complain (what : Text) : Act Unit := discard (Act.write 2 ("find: " ++ what ++ ['\n']))

/-- whether an expression holds of a file, where its deeds are done -/
def evaluate (run : List Text → Act Nat) (x : Spot) : Expr → StateT Course Act Bool
  | .test t => do return t.holds (← (get : Act State)).files x
  | .negation e => do return !(← evaluate run x e)
  | .both a b => do
    if ← evaluate run x a then
      if (← get).finished then return true else evaluate run x b
    else return false
  | .either a b => do if ← evaluate run x a then return true else evaluate run x b
  | .each a b => do
    discard (evaluate run x a)
    evaluate run x b
  | .deed d =>
    match d with
    | .print ending => do
      discard (Act.write 1 (x.path ++ [ending]) : Act Bool)
      return true
    | .format t => do
      discard (Act.write 1 (formatted x (t.length + 1) t) : Act Bool)
      return true
    | .run command inside => do
      let path : Text := if inside then "./" ++ x.name else x.path
      let status ← (run (command.map fun a => filledIn path a a.length) : Act Nat)
      return status == 0
    | .gather command => do
      modify fun c =>
        let known := (c.waiting.lookup command).getD []
        { c with waiting := put command (known ++ [x.path]) c.waiting }
      return true
    | .delete => do
      let s ← (get : Act State)
      if x.node = .directory ∧ s.files.names x.place ≠ [] then
        (complain ("cannot delete " ++ shownAlways x.path ++ ": " ++ PathFault.notEmpty.message) :
          Act Unit)
        modify fun c => { c with status := 1 }
        return false
      else
        (set { s with files := s.files.change x.place none } : Act Unit)
        return true
    | .prune => do
      modify fun c => { c with pruned := true }
      return true
    | .quit => do
      modify fun c => { c with finished := true }
      return true

def visit (run : List Text → Act Nat) (k : Search) : Nat → Spot → StateT Course Act Unit
  | 0, _ => return
  | n + 1, x => do
    if (← get).finished then return
    modify fun c => { c with pruned := false }
    let counts := k.least ≤ x.depth
    if counts && !k.late then discard (evaluate run x k.expr)
    let goes := x.node = .directory && k.most.all (x.depth < ·) && !(← get).pruned
    if goes then
      let names := (← (get : Act State)).files.names x.place
      for name in names do
        let place := x.place ++ [name]
        match (← (get : Act State)).files.at? place with
        | some node => visit run k n ⟨pathIn x.path name, place, x.depth + 1, x.top, node⟩
        | none => pure ()
    if counts && k.late then
      if !(← get).finished then discard (evaluate run x k.expr)

def search (run : List Text → Act Nat) (k : Search) : Act Nat := do
  let all : StateT Course Act Unit := do
    for path in k.paths do
      let s ← (get : Act State)
      match s.files.place path, s.files.find path with
      | .ok place, .ok node => visit run k 4096 ⟨path, place, 0, path, node⟩
      | _, .error f =>
        (complain (shownAlways path ++ ": " ++ f.message) : Act Unit)
        modify fun c => { c with status := 1 }
      | .error f, _ =>
        (complain (shownAlways path ++ ": " ++ f.message) : Act Unit)
        modify fun c => { c with status := 1 }
  let ((), c) ← all.run ⟨false, false, [], 0⟩
  let mut status := c.status
  for (command, paths) in c.waiting do
    if (← run (command ++ paths)) ≠ 0 then status := 1
  return status

end Find

def find (run : List Text → Act Nat) (args : List Text) : Act Unit := do
  match Find.Search.of args with
  | .error what =>
    Find.complain what
    Act.finish 1
  | .ok k => Act.finish (← Find.search run k)

end Shell
end CoroBridge
