import CoroBridge.Shell.Format
import CoroBridge.Shell.Regex

/-!
# Command language: the language of `awk`, notations

How numbers, texts and regular expressions are written in programs for `awk`.

* `Awk.leading`              the number that a text begins with;
* `Awk.escape`, `Awk.unescape`   the characters that stand after backslashes;
* `Awk.regex`                the regular expression that a text is.
-/

namespace CoroBridge
namespace Shell
namespace Awk

/-! ## numbers -/

def leading (t : Text) : Float × Nat :=
  let blanks := (t.takeWhile isSpace).length
  let r := t.drop blanks
  let (negative, sign) := match r with
    | '-' :: _ => (true, 1)
    | '+' :: _ => (false, 1)
    | _ => (false, 0)
  match r.drop sign with
  | '0' :: x :: h =>
    let (n, digits) := digitRun 16 h
    if (x = 'x' ∨ x = 'X') ∧ digits ≠ 0 then
      let f := Float.ofNat n
      (if negative then -f else f, blanks + sign + 2 + digits)
    else floating t
  | _ => floating t

/-- the number that a text as a whole looks like -/
def numeric? (t : Text) : Option Float :=
  let r := strip t
  if r.any Char.isDigit then
    let (x, n) := leading r
    if n = r.length then some x else none
  else none

/-! ## escapes -/

/-- the character that a letter after a backslash stands for -/
def letter? : Char → Option Char
  | '"' => some '"'
  | '\\' => some '\\'
  | 'a' => some '\x07'
  | 'b' => some '\x08'
  | 'f' => some '\x0c'
  | 'n' => some '\n'
  | 'r' => some '\r'
  | 't' => some '\t'
  | 'v' => some '\x0b'
  | _ => none

def escape (t : Text) : Option (Char × Nat) :=
  match t with
  | [] => none
  | 'x' :: r =>
    let (n, digits) := digitRun 16 (r.take 2)
    if digits = 0 then none else some (Char.ofNat (n % 256), digits + 1)
  | c :: _ =>
    match letter? c with
    | some l => some (l, 1)
    | none =>
      let (n, digits) := octalRun 3 t
      if digits = 0 then none else some (Char.ofNat (n % 256), digits)

def unescape : Nat → Text → Text
  | _, [] => []
  | skip + 1, _ :: r => unescape skip r
  | 0, '\\' :: '\n' :: r => unescape 0 r
  | 0, '\\' :: r =>
    match escape r with
    | some (c, n) => c :: unescape n r
    | none => '\\' :: unescape 0 r
  | 0, c :: r => c :: unescape 0 r

/-! ## regular expressions -/

/-- the reasons why a text is no regular expression -/
inductive NotationFault where
  | openGroup
  | noOperand
  | openList
  | repeatedStart
  deriving DecidableEq, Repr

def NotationFault.message : NotationFault → Text
  | openGroup => "missing ')'"
  | noOperand => "missing operand"
  | openList => "bad class -- [], [^] or ["
  | repeatedStart => "syntax error ^* or ^+"

def literal (t : Text) : Char × Nat := (escape t).getD (t.headD '\\', min 1 t.length)

/-- a member of a list in brackets, and what follows -/
def listMember : Text → Char × Text
  | '\\' :: r => ((literal r).1, r.drop (literal r).2)
  | c :: r => (c, r)
  | [] => (']', [])

/-- the members that a list goes on with up to its closing bracket, and what follows; `first` tells
that there are none yet, where a closing bracket is a member -/
def listMembers : Nat → Members → Bool → Text → Except NotationFault (Members × Text)
  | 0, _, _, _ => .error .openList
  | n + 1, m, first, t =>
    match t with
    | [] => .error .openList
    | '[' :: ':' :: r =>
      match cutAt? ":]" r with
      | some (name, rest) =>
        if (classOf? name).isSome then listMembers n { m with named := name :: m.named } false rest
        else .error .openList
      | none => listMembers n { m with ranges := ('[', '[') :: m.ranges } false (':' :: r)
    | c :: r =>
      if c = ']' ∧ !first then .ok (m, r)
      else
        let (a, r) := listMember (c :: r)
        match r with
        | '-' :: d :: r' =>
          if d = ']' then listMembers n { m with ranges := (a, a) :: m.ranges } false r
          else
            let (b, r) := listMember (d :: r')
            let range := if a ≤ b then (a, b) else (b, a)
            listMembers n { m with ranges := range :: m.ranges } false r
        | _ => listMembers n { m with ranges := (a, a) :: m.ranges } false r

/-- the list in brackets that a text begins with, after its opening bracket, and what follows -/
def list (t : Text) : Except NotationFault (Members × Text) :=
  match t with
  | '^' :: r => listMembers (t.length + 1) ⟨true, [], []⟩ true r
  | _ => listMembers (t.length + 1) ⟨false, [], []⟩ true t

/-- the counts in braces that a text begins with, after the opening brace, and what follows -/
def counts? (t : Text) : Option (Nat × Option Nat × Text) :=
  let least := t.takeWhile Char.isDigit
  match t.drop least.length with
  | '\x7d' :: r => (number? least).map fun n => (n, some n, r)
  | ',' :: r =>
    let most := r.takeWhile Char.isDigit
    match r.drop most.length with
    | '\x7d' :: r =>
      if least = [] ∧ most = [] then none
      else some ((number? least).getD 0, number? most, r)
    | _ => none
  | _ => none

/-- an expression with the repetitions that follow it, and what follows them -/
def repeats : Nat → Regex → Text → Regex × Text
  | 0, a, t => (a, t)
  | n + 1, a, t =>
    match t with
    | '*' :: r => repeats n (.repeated a 0 none) r
    | '+' :: r => repeats n (.repeated a 1 none) r
    | '?' :: r => repeats n (.repeated a 0 (some 1)) r
    | '\x7b' :: r =>
      match counts? r with
      | some (least, most, r) => repeats n (.repeated a least most) r
      | none => (a, t)
    | _ => (a, t)

/-- whether an expression is over, in so many groups, before a text -/
def endsBefore (depth : Nat) : Text → Bool
  | [] => true
  | '|' :: _ => true
  | ')' :: _ => depth != 0
  | _ => false

mutual

/-- alternatives, in so many groups, and what follows them -/
def alternatives : Nat → Nat → Text → Except NotationFault (Regex × Text)
  | 0, _, _ => .error .openGroup
  | n + 1, depth, t =>
    if t = [] ∧ depth ≠ 0 then .error .openGroup
    else if endsBefore depth t then .error .noOperand
    else do
      let (a, r) ← sequence n depth true .nothing t
      match r with
      | '|' :: r =>
        if depth ≠ 0 ∧ r.head? = some ')' then .ok (.either a .nothing, r)
        else
          let (b, r) ← alternatives n depth r
          .ok (.either a b, r)
      | _ => .ok (a, r)

/-- pieces one after the other, with those before them; `front` tells that there are none -/
def sequence : Nat → Nat → Bool → Regex → Text → Except NotationFault (Regex × Text)
  | 0, _, _, _, _ => .error .openGroup
  | n + 1, depth, front, before, t =>
    let go := fun (a : Regex) (r : Text) =>
      let (a, r) := repeats (r.length + 1) a r
      sequence n depth false (.both before a) r
    if endsBefore depth t then .ok (before, t)
    else
      match t with
      | [] => .ok (before, [])
      | '(' :: r => do
        let (a, r) ← alternatives n (depth + 1) r
        match r with
        | ')' :: r => go a r
        | _ => .error .openGroup
      | '[' :: r => do
        let (m, r) ← list r
        go (.among m) r
      | '\\' :: r => go (.char (literal r).1) (r.drop (literal r).2)
      | '.' :: r => go .any r
      | '^' :: r =>
        if !front then go (.char '^') r
        else if r.head? = some '*' ∨ r.head? = some '+' then .error .repeatedStart
        else sequence n depth true (.both before (.start true)) r
      | '$' :: r =>
        if endsBefore depth r ∨ r.all (· == '$') then
          sequence n depth false (.both before (.finish true)) r
        else go (.char '$') r
      | c :: r => if front ∧ (c = '*' ∨ c = '+' ∨ c = '?') then .error .noOperand else go (.char c) r

end

def regex (t : Text) : Except NotationFault Regex :=
  if t = [] then .ok .nothing
  else do
    let (a, _) ← alternatives (2 * t.length + 2) 0 t
    .ok a

end Awk
end Shell
end CoroBridge
