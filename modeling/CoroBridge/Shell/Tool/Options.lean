import CoroBridge.Shell.Tool

/-!
# Command language: options

The options among the arguments of a tool: letters after a dash, or names after two dashes, which
may be cut short as long as they stand for one letter.

* `OptionTable`          the options that a tool takes;
* `Options`              the options that are given, and the operands;
* `OptionFault`          the reasons why arguments are refused;
* `OptionTable.read`     the options and operands among arguments;
* `Call.withOptions`     a tool that takes options;
* `size?`                the number that a size is.
-/

namespace CoroBridge
namespace Shell

structure OptionTable where
  plain : Text
  valued : Text
  perhaps : Text
  names : List (Text × Char)
  ordered : Bool

structure Options where
  given : List (Char × Option Text)
  operands : List Text
  deriving DecidableEq, Repr

namespace Options

def has (o : Options) (c : Char) : Bool := o.given.any (·.1 == c)

def value? (o : Options) (c : Char) : Option Text := (o.given.reverse.lookup c).join

def values (o : Options) (c : Char) : List Text :=
  (o.given.filter (·.1 == c)).filterMap Prod.snd

def last? (o : Options) (cs : Text) : Option Char :=
  (o.given.reverse.find? fun g => cs.contains g.1).map Prod.fst

end Options

def helpLetter : Char := 'ʰ'

def versionLetter : Char := 'ᵛ'

/-- a table of letters and names, with those that every tool knows -/
def OptionTable.of (plain valued : Text) (names : List (String × Char)) : OptionTable where
  plain := plain ++ [helpLetter, versionLetter]
  valued := valued
  perhaps := []
  names := (names ++ [("help", helpLetter), ("version", versionLetter)]).map fun n =>
    (n.1.toList, n.2)
  ordered := false

inductive OptionFault where
  | letter (c : Char)
  | owed (c : Char)
  | name (a : Text)
  | owedName (n : Text)
  | unwanted (n : Text)
  | ambiguous (a : Text) (names : List Text)
  deriving DecidableEq, Repr

def OptionFault.message : OptionFault → Text
  | letter c => "invalid option -- " ++ singleQuoted [c]
  | owed c => "option requires an argument -- " ++ singleQuoted [c]
  | name a => "unrecognized option " ++ singleQuoted a
  | owedName n => "option " ++ singleQuoted ("--" ++ n) ++ " requires an argument"
  | unwanted n => "option " ++ singleQuoted ("--" ++ n) ++ " doesn't allow an argument"
  | ambiguous a names =>
    "option " ++ singleQuoted a ++ " is ambiguous; possibilities:"
      ++ names.flatMap fun n => ' ' :: singleQuoted ("--" ++ n)

namespace OptionTable

/-- the options in a group of letters; the last letter may owe its value to the next argument -/
def group (o : OptionTable) : Text → Except OptionFault (List (Char × Option Text) × Option Char)
  | [] => .ok ([], none)
  | c :: r =>
    if c ∈ o.valued then
      if r = [] then .ok ([], some c) else .ok ([(c, some r)], none)
    else if c ∈ o.perhaps then .ok ([(c, if r = [] then none else some r)], none)
    else if c ∈ o.plain then (o.group r).map fun p => ((c, none) :: p.1, p.2)
    else .error (.letter c)

/-- the name that an argument cuts short, and its letter -/
def named (o : OptionTable) (a name : Text) : Except OptionFault (Text × Char) :=
  match o.names.find? (·.1 == name) with
  | some n => .ok n
  | none =>
    match o.names.filter fun n => name.isPrefixOf n.1 with
    | [] => .error (.name a)
    | n :: ns =>
      if ns.all (·.2 == n.2) then .ok n else .error (.ambiguous a ((n :: ns).map Prod.fst))

def read (o : OptionTable) (owed : Option (Char × Option Text)) :
    List Text → Except OptionFault Options
  | [] =>
    match owed with
    | some (_, some n) => .error (.owedName n)
    | some (c, none) => .error (.owed c)
    | none => .ok ⟨[], []⟩
  | a :: as =>
    match owed with
    | some (c, _) => (o.read none as).map fun r => ⟨(c, some a) :: r.given, r.operands⟩
    | none =>
      match a with
      | ['-', '-'] => .ok ⟨[], as⟩
      | '-' :: '-' :: t => do
        let name := t.takeWhile (· != '=')
        let value := if name.length < t.length then some (t.drop (name.length + 1)) else none
        let (n, c) ← o.named a name
        let more := fun (r : Options) => (⟨(c, value) :: r.given, r.operands⟩ : Options)
        if c ∈ o.valued then
          if value.isSome then (o.read none as).map more else o.read (some (c, some n)) as
        else if c ∉ o.perhaps ∧ value.isSome then .error (.unwanted n)
        else (o.read none as).map more
      | '-' :: c :: r => do
        let (given, owed) ← o.group (c :: r)
        let rest ← o.read (owed.map fun c => (c, none)) as
        .ok ⟨given ++ rest.given, rest.operands⟩
      | _ =>
        if o.ordered then .ok ⟨[], a :: as⟩
        else (o.read none as).map fun r => ⟨r.given, a :: r.operands⟩

end OptionTable

def Call.withOptions (c : Call) (o : OptionTable) (status : Nat) (run : Options → Effect) :
    Effect :=
  match o.read none c.args with
  | .error f => c.misused status f.message
  | .ok r => if r.has helpLetter || r.has versionLetter then silent 0 else run r

/-! ## values -/

def sizeUnits : Text := "KMGTPEZYRQ"

/-- the factor that the letters after a number stand for -/
def unit? (t : Text) : Option Nat :=
  match t with
  | [] => some 1
  | ['b'] => some 512
  | c :: r =>
    let c := if c = 'k' ∨ c = 'm' then c.toUpper else c
    match sizeUnits.findIdx? (· == c), r with
    | some i, [] => some (Nat.pow 1024 (i + 1))
    | some i, ['B'] => some (Nat.pow 1000 (i + 1))
    | some i, ['i', 'B'] => some (Nat.pow 1024 (i + 1))
    | _, _ => none

def size? (t : Text) : Option Nat :=
  let t := match t with
    | '+' :: r => r
    | _ => t
  let d := t.takeWhile Char.isDigit
  match number? d, unit? (t.drop d.length) with
  | some n, some k => some (n * k)
  | none, some k => if t = [] ∨ d.length = t.length then none else if k = 1 then none else some k
  | _, none => none

def greatestSize : Nat := Nat.pow 2 64 - 1

/-- the size that a value is, or a complaint about it, which is called `what` -/
def sizeOf (what t : Text) : Except Text Nat :=
  match size? t with
  | none => .error ("invalid " ++ what ++ ": " ++ quoted t)
  | some n =>
    if n ≤ greatestSize then .ok n
    else .error ("invalid " ++ what ++ ": " ++ quoted t
      ++ ": Value too large for defined data type")

end Shell
end CoroBridge
