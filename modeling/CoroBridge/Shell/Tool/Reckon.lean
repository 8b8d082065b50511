import CoroBridge.Shell.Regex
import CoroBridge.Shell.Tool.Options

/-!
# Command language: expressions in arguments

The tool `expr` finds the value of an expression of which every sign is an argument.

* `Value`           a number or a text;
* `ReckonFault`     the reasons why arguments have no value;
* `Reckoning`       a value with the arguments that are left;
* `reckon`          the value of all arguments;
* `expr`            the tool.
-/

namespace CoroBridge
namespace Shell

inductive Value where
  | number (n : Int)
  | text (t : Text)
  deriving DecidableEq, Repr

namespace Value

def shown : Value → Text
  | number n => ofInt n
  | text t => t

/-- whether a text is a whole number with a minus sign or none -/
def isWhole (t : Text) : Bool :=
  match t with
  | '-' :: d => (number? d).isSome
  | d => (number? d).isSome

def whole? : Value → Option Int
  | number n => some n
  | text t => if isWhole t then Shell.whole? t else none

/-- whether a value counts as false: nothing, or zero -/
def isNull : Value → Bool
  | number n => n == 0
  | text t =>
    let d := match t with
      | '-' :: r => r
      | r => r
    t == [] || (d ≠ [] && d.all (· == '0'))

end Value

inductive ReckonFault where
  | unexpected (a : Text)
  | missing (a : Text)
  | noClosing (a : Text)
  | notClosing (a : Text)
  | closing
  | noInteger
  | zeroDivisor
  | regex (f : RegexFault)
  deriving DecidableEq, Repr

def ReckonFault.message : ReckonFault → Text
  | unexpected a => "syntax error: unexpected argument " ++ quoted a
  | missing a => "syntax error: missing argument after " ++ quoted a
  | noClosing a => "syntax error: expecting ')' after " ++ quoted a
  | notClosing a => "syntax error: expecting ')' instead of " ++ quoted a
  | closing => "syntax error: unexpected ')'"
  | noInteger => "non-integer argument"
  | zeroDivisor => "division by zero"
  | regex f => f.message

abbrev Reckoning := Except ReckonFault (Value × Text × List Text)

/-- what a pattern matches at the beginning of a text: its group, or its length -/
def matchedBy (t pattern : Text) : Except ReckonFault Value :=
  match Regex.parse ⟨false, true⟩ pattern with
  | .error f => .error (.regex f)
  | .ok ⟨r, groups, _⟩ =>
    match r.longest? ⟨false, false⟩ ⟨none, t, []⟩ with
    | some s =>
      if groups = 0 then .ok (.number (t.length - s.rest.length))
      else .ok (.text ((s.groups.lookup 1).getD []))
    | none => if groups = 0 then .ok (.number 0) else .ok (.text [])

/-- the place of the first character of a text that is one of some others -/
def placeIn (t others : Text) : Nat :=
  match t.findIdx? others.contains with
  | some i => i + 1
  | none => 0

def partOf (t : Text) (place length : Value) : Text :=
  match place.whole?, length.whole? with
  | some p, some n => if p ≤ 0 ∨ n ≤ 0 then [] else (t.drop (p.toNat - 1)).take n.toNat
  | _, _ => []

def arithmetic (sign : Text) (a b : Value) : Except ReckonFault Value :=
  match a.whole?, b.whole? with
  | some x, some y =>
    match sign with
    | ['+'] => .ok (.number (x + y))
    | ['-'] => .ok (.number (x - y))
    | ['*'] => .ok (.number (x * y))
    | _ =>
      if y = 0 then .error .zeroDivisor
      else .ok (.number (if sign = ['/'] then x.tdiv y else x.tmod y))
  | _, _ => .error .noInteger

def comparison (sign : Text) (a b : Value) : Bool :=
  let o : Ordering := match a.whole?, b.whole? with
    | some x, some y => compare x y
    | _, _ => compareOfLessAndEq a.shown b.shown
  match String.ofList sign with
  | "<" => o == .lt
  | "<=" => o != .gt
  | "=" => o == .eq
  | "==" => o == .eq
  | "!=" => o != .eq
  | ">=" => o != .lt
  | _ => o == .gt

/-- the signs between two operands, by how closely they bind, from those that do least -/
def reckonSigns : Nat → List Text
  | 5 => [['|']]
  | 4 => [['&']]
  | 3 => ["<", "<=", "=", "==", "!=", ">=", ">"].map String.toList
  | 2 => [['+'], ['-']]
  | 1 => [['*'], ['/'], ['%']]
  | _ => [[':']]

/-- the value of a sign between two operands; `live` tells that faults count -/
def combined (live : Bool) (rank : Nat) (sign : Text) (a b : Value) : Except ReckonFault Value :=
  match rank with
  | 5 => .ok (if a.isNull then (if b.isNull then .number 0 else b) else a)
  | 4 => .ok (if a.isNull || b.isNull then .number 0 else a)
  | 3 => .ok (.number (if comparison sign a b then 1 else 0))
  | 0 => if live then matchedBy a.shown b.shown else .ok a
  | _ => if live then arithmetic sign a b else .ok a

mutual

/-- operands with signs of some rank between them -/
def reckonRank : Nat → Bool → Nat → Text → List Text → Reckoning
  | 0, _, _, last, _ => .error (.missing last)
  | n + 1, live, rank, last, args => do
    let (a, last, args) ←
      if rank = 0 then reckonWord n live last args else reckonRank n live (rank - 1) last args
    reckonMore n live rank a last args

def reckonMore : Nat → Bool → Nat → Value → Text → List Text → Reckoning
  | 0, _, _, a, last, args => .ok (a, last, args)
  | n + 1, live, rank, a, last, args =>
    match args with
    | sign :: rest =>
      if sign ∈ reckonSigns rank then do
        let needed := match rank with
          | 5 => a.isNull
          | 4 => !a.isNull
          | _ => true
        let (b, last, rest) ←
          if rank = 0 then reckonWord n live sign rest
          else reckonRank n (live && needed) (rank - 1) sign rest
        let v ← combined live rank sign a b
        reckonMore n live rank v last rest
      else .ok (a, last, args)
    | [] => .ok (a, last, [])

/-- an operand that begins with a word, or a plain one -/
def reckonWord : Nat → Bool → Text → List Text → Reckoning
  | 0, _, last, _ => .error (.missing last)
  | n + 1, live, last, args =>
    match args with
    | [] => .error (.missing last)
    | a :: rest =>
      match String.ofList a with
      | "+" =>
        match rest with
        | [] => .error (.missing a)
        | b :: rest => .ok (.text b, b, rest)
      | "length" => do
        let (t, last, rest) ← reckonWord n live a rest
        .ok (.number t.shown.length, last, rest)
      | "match" => do
        let (t, last, rest) ← reckonWord n live a rest
        let (p, last, rest) ← reckonWord n live last rest
        let v ← if live then matchedBy t.shown p.shown else .ok t
        .ok (v, last, rest)
      | "index" => do
        let (t, last, rest) ← reckonWord n live a rest
        let (cs, last, rest) ← reckonWord n live last rest
        .ok (.number (placeIn t.shown cs.shown), last, rest)
      | "substr" => do
        let (t, last, rest) ← reckonWord n live a rest
        let (p, last, rest) ← reckonWord n live last rest
        let (k, last, rest) ← reckonWord n live last rest
        .ok (.text (partOf t.shown p k), last, rest)
      | "(" => do
        let (v, last, rest) ← reckonRank n live 5 a rest
        match rest with
        | [')'] :: rest => .ok (v, ")", rest)
        | b :: _ => .error (.notClosing b)
        | [] => .error (.noClosing last)
      | ")" => .error .closing
      | _ => .ok (.text a, a, rest)

end

def reckon (args : List Text) : Except ReckonFault Value := do
  let (v, _, rest) ← reckonRank (16 * args.length + 16) true 5 [] args
  match rest with
  | [] => .ok v
  | a :: _ => .error (.unexpected a)

def expr : Tool := fun c =>
  let args := if c.args.head? = some "--".toList then c.args.drop 1 else c.args
  if args = ["--help".toList] ∨ args = ["--version".toList] then silent 0
  else if args = [] then c.misused 2 "missing operand"
  else
    match reckon args with
    | .error f => c.fail 2 f.message
    | .ok v => { writing (v.shown ++ ['\n']) with status := if v.isNull then 1 else 0 }

end Shell
end CoroBridge
