import CoroBridge.Shell.Tool.Options

/-!
# Command language: arguments gathered

The tool `xargs` runs another program with arguments that it reads.

* `Gathering`          how arguments are read and shared out;
* `Gathering.of`       the way that options describe;
* `Gathering.items`    the arguments in a text;
* `Gathering.calls`    the programs with all their arguments.
-/

namespace CoroBridge
namespace Shell

structure Gathering where
  ending : Option Char
  place : Option Text
  most : Option Nat
  lines : Option Nat
  some_ : Bool
  shows : Bool
  program : List Text

def xargsOptions : OptionTable :=
  { OptionTable.of "0rtxpo" "adEInLPs"
      [("null", '0'), ("arg-file", 'a'), ("delimiter", 'd'), ("max-lines", 'L'),
        ("max-args", 'n'), ("max-procs", 'P'), ("no-run-if-empty", 'r'), ("max-chars", 's'),
        ("verbose", 't'), ("exit", 'x'), ("replace", 'i'), ("interactive", 'p'),
        ("open-tty", 'o')]
    with perhaps := "iel", ordered := true }

def Gathering.of (args : List Text) : Except Text Gathering :=
  match xargsOptions.read none args with
  | .error f =>
    .error (f.message ++ "\nTry 'xargs --help' for more information.\n")
  | .ok o =>
    let count := fun (c : Char) =>
      match o.value? c with
      | none => Except.ok none
      | some v =>
        match number? v with
        | some 0 =>
          Except.error (("value 0 for -" : Text) ++ [c] ++ " option should be >= 1\n")
        | some n => .ok (some n)
        | none => .error (("invalid number \"" : Text) ++ v ++ "\" for -" ++ [c] ++ " option\n")
    match count 'n', count 'L' with
    | .error what, _ => .error what
    | _, .error what => .error what
    | .ok most, .ok lines =>
      let delimiter := match o.value? 'd' with
        | some ['\\', 'n'] => some '\n'
        | some ['\\', 't'] => some '\t'
        | some ['\\', '0'] => some '\x00'
        | some (c :: _) => some c
        | _ => none
      let place :=
        if o.has 'I' then o.value? 'I'
        else if o.has 'i' then some ((o.value? 'i').getD "\x7b\x7d")
        else none
      .ok {
        ending := if o.has '0' then some '\x00' else delimiter
        place := place, most := if place.isSome then some 1 else most
        lines := lines, some_ := o.has 'r' || place.isSome, shows := o.has 't'
        program := if o.operands = [] then ["echo"] else o.operands }

/-- the words of a text line by line, where quotes and backslashes protect blanks; `word` is what
was read of a word, its last character first -/
def quotedWords (blanks : Bool) : Option Char → Option Text → List Text → Text →
    Except Text (List (List Text))
  | some q, _, _, [] =>
    .error ("unmatched " ++ (if q = '"' then "double" else "single")
      ++ " quote; by default quotes are special to xargs unless you use the -0 option\n")
  | none, word, line, [] =>
    .ok ((line ++ (word.map List.reverse).toList) :: [])
  | some q, word, line, c :: r =>
    if c = q then quotedWords blanks none word line r
    else if c = '\n' then
      .error ("unmatched " ++ (if q = '"' then "double" else "single")
        ++ " quote; by default quotes are special to xargs unless you use the -0 option\n")
    else quotedWords blanks (some q) (some (c :: word.getD [])) line r
  | none, word, line, c :: r =>
    let line' := line ++ (word.map List.reverse).toList
    if c = '\n' then (quotedWords blanks none none [] r).map (line' :: ·)
    else if blanks && isBlank c then quotedWords blanks none none line' r
    else if isBlank c ∧ word.isNone then quotedWords blanks none none line r
    else if c = '"' ∨ c = '\x27' then quotedWords blanks (some c) (some (word.getD [])) line r
    else if c = '\\' then
      match r with
      | d :: r => quotedWords blanks none (some (d :: word.getD [])) line r
      | [] => .ok [line']
    else quotedWords blanks none (some (c :: word.getD [])) line r

/-- a list in pieces of at most `n + 1` members, in at most `fuel` pieces -/
def piecesOfLength {α : Type} (n : Nat) : Nat → List α → List (List α)
  | 0, _ => []
  | fuel + 1, as =>
    if as.isEmpty then []
    else as.take (n + 1) :: piecesOfLength n fuel (as.drop (n + 1))

/-- a text with a word replaced wherever it stands; `skip` more characters belong to the last one -/
def replacedIn (word new : Text) : Nat → Text → Text
  | _, [] => []
  | skip + 1, _ :: r => replacedIn word new skip r
  | 0, c :: r =>
    if word ≠ [] ∧ word.isPrefixOf (c :: r) then new ++ replacedIn word new (word.length - 1) r
    else c :: replacedIn word new 0 r

def Gathering.items (g : Gathering) (t : Text) : Except Text (List (List Text)) :=
  match g.ending with
  | some c => .ok ((t.splitOn c).map ([·]) |>.reverse.dropWhile (· == [[]]) |>.reverse)
  | none => quotedWords g.place.isNone none none [] t

def Gathering.calls (g : Gathering) (t : Text) : Except Text (List (List Text)) := do
  let lines := (← g.items t).filter (· ≠ [])
  let shares :=
    match g.lines, g.most with
    | some n, none => (piecesOfLength (n - 1) lines.length lines).map List.flatten
    | _, some n => piecesOfLength (n - 1) lines.flatten.length lines.flatten
    | none, none => [lines.flatten]
  let shares := if shares = [] ∨ shares = [[]] then (if g.some_ then [] else [[]]) else shares
  .ok (shares.map fun share =>
    match g.place with
    | some p => g.program.map fun a => replacedIn p share.flatten 0 a
    | none => g.program ++ share)

end Shell
end CoroBridge
