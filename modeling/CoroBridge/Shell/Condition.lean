import CoroBridge.Shell.Arithmetic
import CoroBridge.Shell.Files

/-!
# Command language: conditions

The conditions of the command `test`: on texts, on whole numbers and on what stands at paths.

* `Standing`           what stands at a path;
* `Symbol`             the operators of conditions;
* `ConditionFault`     the reasons why arguments are no condition;
* `holds`              whether the condition that some arguments are holds.
-/

namespace CoroBridge
namespace Shell

inductive Standing where
  | node (n : Node) (place : Place)
  | pipe
  deriving DecidableEq, Repr

inductive Symbol where
  | unary (c : Char)
  | compare (t : Text)
  | both
  | either
  | negation
  | opening
  | closing
  deriving DecidableEq, Repr

def symbol? (a : Text) : Option Symbol :=
  let compares : List Text :=
    ["=", "!=", "<", ">", "-eq", "-ne", "-gt", "-ge", "-lt", "-le", "-nt", "-ot",
      "-ef"].map String.toList
  if compares.contains a then some (.compare a)
  else
    match a with
    | ['!'] => some .negation
    | ['('] => some .opening
    | [')'] => some .closing
    | ['-', 'a'] => some .both
    | ['-', 'o'] => some .either
    | ['-', c] => if c ∈ "rwxefdcbpugkshLOGStzn".toList then some (.unary c) else none
    | _ => none

inductive ConditionFault where
  | unexpected (a : Text)
  | noArgument (a : Text)
  | noClosing
  | noNumber (a : Text)
  | noBracket
  deriving DecidableEq, Repr

def ConditionFault.message : ConditionFault → Text
  | unexpected a => a ++ ": unexpected operator"
  | noArgument a => a ++ ": argument expected"
  | noClosing => "closing paren expected"
  | noNumber a => "Illegal number: " ++ a
  | noBracket => "missing ]"

/-- the operator that the first argument is in its place: one that needs an argument is none where
it stands for itself -/
def leading : List Text → Option Symbol
  | [] => none
  | a :: as =>
    let comparing := fun (a : Text) => match symbol? a with
      | some (.compare _) => true
      | _ => false
    match symbol? a with
    | some (.unary c) =>
      match as with
      | [] => none
      | [_] => some (.unary c)
      | b :: _ => if comparing b then none else some (.unary c)
    | some .opening => if as = [] then none else some .opening
    | s => s

/-- the number of 64 bits that an argument is -/
def operand (a : Text) : Except ConditionFault Int :=
  match whole? a with
  | some n => if clamp n = n then .ok n else .error (.noNumber a)
  | none => .error (.noNumber a)

def compared (at_ : Text → Option Standing) (a op b : Text) : Except ConditionFault Bool :=
  let numbers := fun (f : Int → Int → Bool) => do .ok (f (← operand a) (← operand b))
  match String.ofList op with
  | "=" => .ok (a == b)
  | "!=" => .ok (a != b)
  | "<" => .ok (a < b)
  | ">" => .ok (b < a)
  | "-eq" => numbers (· == ·)
  | "-ne" => numbers (· != ·)
  | "-gt" => numbers (· > ·)
  | "-ge" => numbers (· ≥ ·)
  | "-lt" => numbers (· < ·)
  | "-le" => numbers (· ≤ ·)
  | "-nt" => .ok ((at_ a).isSome && (at_ b).isNone)
  | "-ot" => .ok ((at_ a).isNone && (at_ b).isSome)
  | _ => .ok ((at_ a).isSome && at_ a == at_ b)

def Standing.holds (x : Standing) (c : Char) : Bool :=
  match c, x with
  | 'd', .node .directory _ => true
  | 'f', .node (.file _ _) _ => true
  | 'f', .node (.program _) _ => true
  | 's', .node (.file t _) _ => !t.isEmpty
  | 's', .node .directory _ => true
  | 's', .node (.program _) _ => true
  | 'x', .node (.file _ runs) _ => runs
  | 'x', .node .directory _ => true
  | 'x', .node (.program _) _ => true
  | 'c', .node (.device _) _ => true
  | 'p', .pipe => true
  | 'p', .node .fifo _ => true
  | _, _ => c ∈ "erwOG".toList

/-- whether a condition on one argument holds -/
def single (at_ : Text → Option Standing) (c : Char) (a : Text) : Except ConditionFault Bool :=
  match c with
  | 'n' => .ok (!a.isEmpty)
  | 'z' => .ok a.isEmpty
  | 't' => do
    discard (operand a)
    .ok false
  | _ => .ok ((at_ a).any (·.holds c))

abbrev Held := Except ConditionFault (Bool × List Text)

mutual

def anyHolds (at_ : Text → Option Standing) : Nat → Bool → List Text → Held
  | 0, _, as => .ok (false, as)
  | n + 1, before, as => do
    let (b, as) ← allHold at_ n true as
    match leading as.tail with
    | some .either => anyHolds at_ n (before || b) (as.drop 2)
    | _ => .ok (before || b, as)

def allHold (at_ : Text → Option Standing) : Nat → Bool → List Text → Held
  | 0, _, as => .ok (false, as)
  | n + 1, before, as => do
    let (b, as) ← negated at_ n as
    match leading as.tail with
    | some .both => allHold at_ n (before && b) (as.drop 2)
    | _ => .ok (before && b, as)

/-- a condition with exclamation marks in front, or without -/
def negated (at_ : Text → Option Standing) : Nat → List Text → Held
  | 0, as => .ok (false, as)
  | n + 1, as =>
    match leading as with
    | some .negation => do
      if as.tail = [] then .ok (true, as)
      else
        let (b, as) ← negated at_ n as.tail
        .ok (!b, as)
    | _ => primary at_ n as

/-- a condition without operators between conditions -/
def primary (at_ : Text → Option Standing) : Nat → List Text → Held
  | 0, as => .ok (false, as)
  | n + 1, as =>
    match as with
    | [] => .ok (false, [])
    | a :: rest =>
      match leading as with
      | some .opening =>
        if leading rest = some .closing then .ok (false, rest)
        else do
          let (b, as) ← anyHolds at_ n false rest
          if leading as.tail = some .closing then .ok (b, as.tail) else .error .noClosing
      | some (.unary c) =>
        match rest with
        | [] => .error (.noArgument a)
        | b :: _ => (single at_ c b).map fun v => (v, rest)
      | _ =>
        match leading rest, rest with
        | some (.compare op), [_] => .error (.noArgument op)
        | some (.compare op), _ :: b :: rest => (compared at_ a op b).map fun v => (v, b :: rest)
        | _, _ => .ok (!a.isEmpty, as)

end

/-- whether the condition that all of some arguments make up holds -/
def allOf (at_ : Text → Option Standing) (as : List Text) : Except ConditionFault Bool := do
  let (b, rest) ← anyHolds at_ (4 * as.length + 4) false as
  match rest with
  | a :: _ :: _ => .error (.unexpected a)
  | _ => .ok b

def holds (at_ : Text → Option Standing) : List Text → Except ConditionFault Bool
  | [] => .ok false
  | [a, op, b] =>
    match symbol? op with
    | some (.compare op) => compared at_ a op b
    | _ =>
      if a = ['('] ∧ b = [')'] then allOf at_ [op]
      else if a = ['!'] then (holds at_ [op, b]).map (!·)
      else allOf at_ [a, op, b]
  | [a, b, c, d] =>
    if a = ['('] ∧ d = [')'] then allOf at_ [b, c]
    else if a = ['!'] then (holds at_ [b, c, d]).map (!·)
    else allOf at_ [a, b, c, d]
  | as => allOf at_ as

end Shell
end CoroBridge
