import CoroBridge.Shell.Condition
import CoroBridge.Shell.Tool.Options

/-!
# Command language: conditions as a program

The program `test`, which also goes by the name `[`. It reads conditions as the built-in command
does, but compares whole numbers of any size and complains in its own words.

* `Judge.Judging`  a part of a condition read: whether it holds, and the arguments after it;
* `Judge.judged`   whether the condition that some arguments are holds;
* `judge`          the tool.
-/

namespace CoroBridge
namespace Shell
namespace Judge

abbrev Judging := Except Text (Bool × List Text)

def isComparing (a : Text) : Bool :=
  (["=", "==", "!=", "<", ">", "-eq", "-ne", "-gt", "-ge", "-lt", "-le", "-nt", "-ot",
    "-ef"] : List String).any fun b => a == b.toList

def unaryLetter? : Text → Option Char
  | ['-', c] => some c
  | _ => none

def beyond {α : Type} (all : List Text) : Except Text α :=
  .error ("missing argument after " ++ quoted (all.getLast?.getD []))

def wholeOperand (a : Text) : Except Text Int :=
  match whole? a with
  | some n => .ok n
  | none => .error ("invalid integer " ++ quoted a)

def comparison (at_ : Text → Option Standing) (a op b : Text) : Except Text Bool :=
  if op = "==".toList then .ok (a == b)
  else if op.head? = some '-' ∧ !((["-nt", "-ot", "-ef"] : List String).map String.toList).contains op then do
    let m ← wholeOperand a
    let n ← wholeOperand b
    .ok (match String.ofList op with
      | "-eq" => m == n
      | "-ne" => m != n
      | "-gt" => m > n
      | "-ge" => m ≥ n
      | "-lt" => m < n
      | _ => m ≤ n)
  else (compared at_ a op b).mapError ConditionFault.message

/-- whether a condition on one argument holds -/
def onOne (at_ : Text → Option Standing) (all : List Text) : List Text → Judging
  | a :: rest =>
    match unaryLetter? a with
    | none => .error (quoted a ++ ": unary operator expected")
    | some c =>
      if c ∉ "abcdefghkLnNOGoprsStuwxz".toList then
        .error (quoted a ++ ": unary operator expected")
      else
        match rest with
        | [] => beyond all
        | b :: rest =>
          match c with
          | 'o' => .ok (false, rest)
          | 't' => do
            discard (wholeOperand b)
            .ok (false, rest)
          | _ => ((single at_ (if c = 'a' then 'e' else c) b).mapError
              ConditionFault.message).map fun v => (v, rest)
  | [] => beyond all

mutual

def oneHolds (at_ : Text → Option Standing) (all : List Text) : Nat → List Text → Judging
  | 0, as => .ok (false, as)
  | n + 1, as => do
    let (v, rest) ← everyHolds at_ all n as
    match rest with
    | ['-', 'o'] :: rest =>
      let (w, rest) ← oneHolds at_ all n rest
      .ok (v || w, rest)
    | _ => .ok (v, rest)

def everyHolds (at_ : Text → Option Standing) (all : List Text) : Nat → List Text → Judging
  | 0, as => .ok (false, as)
  | n + 1, as => do
    let (v, rest) ← oneCondition at_ all n as
    match rest with
    | ['-', 'a'] :: rest =>
      let (w, rest) ← everyHolds at_ all n rest
      .ok (v && w, rest)
    | _ => .ok (v, rest)

/-- a condition without operators between conditions -/
def oneCondition (at_ : Text → Option Standing) (all : List Text) : Nat → List Text → Judging
  | 0, as => .ok (false, as)
  | n + 1, as =>
    match as with
    | [] => beyond all
    | ['!'] :: rest => (oneCondition at_ all n rest).map fun p => (!p.1, p.2)
    | a :: rest =>
      if a = ['('] then
        if rest = [] then beyond all
        else do
          let inside := rest.take 4 |>.takeWhile (· != [')'])
          let share := if inside.length = 4 ∨ inside.length = rest.length then rest.length
            else max 1 inside.length
          let (v, left) ← someHold at_ all n (rest.take share)
          match left ++ rest.drop share with
          | [] => .error (quoted [')'] ++ " expected")
          | b :: rest =>
            if b = [')'] then .ok (v, rest)
            else .error (quoted [')'] ++ " expected, found " ++ quoted b)
      else
        match rest with
        | op :: b :: more =>
          if isComparing op then do
            let v ← comparison at_ a op b
            .ok (v, more)
          else alone at_ all (a :: rest)
        | _ => alone at_ all (a :: rest)

/-- a condition on one argument, or an argument that stands for itself -/
def alone (at_ : Text → Option Standing) (all : List Text) (as : List Text) : Judging :=
  match as with
  | a :: rest =>
    if (unaryLetter? a).isSome then onOne at_ all as else .ok (!a.isEmpty, rest)
  | [] => beyond all

/-- a condition whose number of arguments tells how it is read -/
def someHold (at_ : Text → Option Standing) (all : List Text) : Nat → List Text → Judging
  | 0, as => .ok (false, as)
  | n + 1, as =>
    match as with
    | [] => .ok (false, [])
    | [a] => .ok (!a.isEmpty, [])
    | [a, b] =>
      if a = ['!'] then .ok (b.isEmpty, [])
      else if (unaryLetter? a).isSome then onOne at_ all as
      else beyond all
    | [a, op, b] =>
      if isComparing op then (comparison at_ a op b).map fun v => (v, [])
      else if a = ['!'] then (someHold at_ all n [op, b]).map fun p => (!p.1, p.2)
      else if a = ['('] ∧ b = [')'] then .ok (!op.isEmpty, [])
      else if op = "-a".toList ∨ op = "-o".toList then oneHolds at_ all n as
      else .error (quoted op ++ ": binary operator expected")
    | [a, b, c, d] =>
      if a = ['!'] then (someHold at_ all n [b, c, d]).map fun p => (!p.1, p.2)
      else if a = ['('] ∧ d = [')'] then someHold at_ all n [b, c]
      else oneHolds at_ all n as
    | _ => oneHolds at_ all n as

end

def judged (at_ : Text → Option Standing) (as : List Text) : Except Text Bool := do
  let (v, rest) ← someHold at_ as (8 * as.length + 8) as
  match rest with
  | [] => .ok v
  | a :: _ => .error ("extra argument " ++ quoted a)

end Judge

def judge : Tool := fun c =>
  let at_ := fun (path : Text) =>
    match c.files.find path, c.files.place path with
    | .ok n, .ok p => some (.node n p)
    | _, _ => none
  let bracket := c.name.getLast? = some '['
  if bracket ∧ c.args.getLast? ≠ some [']'] then c.fail 2 "missing ']'"
  else
    match Judge.judged at_ (if bracket then c.args.dropLast else c.args) with
    | .ok v => silent (if v then 0 else 1)
    | .error what => c.fail 2 what

end Shell
end CoroBridge
