import CoroBridge.Shell.Octet

/-!
# Command language: arithmetic

Expressions over whole numbers of 64 bits and over variables that hold such numbers.

* `Operator`           the operators between two operands, each with its rank;
* `Expr`               expressions;
* `ArithmeticFault`    the reasons why a text is no expression or has no value;
* `lexemes`            the numbers, names and signs of a text;
* `Expr.parse`         the expression that a text is;
* `Expr.eval`          its value, and the variables that it leaves behind.
-/

namespace CoroBridge
namespace Shell

/-! ## expressions -/

inductive Operator where
  | times | divide | modulo | plus | minus | left | right | less | atMost | greater | atLeast
  | equal | unequal | bitAnd | bitXor | bitOr | both | either
  deriving DecidableEq, Repr

/-- the sign of each operator and its rank; what has a greater rank binds more closely -/
def operators : List (Text × Operator × Nat) :=
  [("*", .times, 10), ("/", .divide, 10), ("%", .modulo, 10), ("+", .plus, 9), ("-", .minus, 9),
    ("<<", .left, 8), (">>", .right, 8), ("<", .less, 7), ("<=", .atMost, 7), (">", .greater, 7),
    (">=", .atLeast, 7), ("==", .equal, 6), ("!=", .unequal, 6), ("&", .bitAnd, 5),
    ("^", .bitXor, 4), ("|", .bitOr, 3), ("&&", .both, 2), ("||", .either, 1)]

inductive Change where
  | same | negative | complement | negation
  deriving DecidableEq, Repr

inductive Expr where
  | number (n : Int)
  | value (name : Text)
  | change (c : Change) (e : Expr)
  | binary (op : Operator) (a b : Expr)
  | choice (test yes no : Expr)
  | assign (name : Text) (op : Option Operator) (e : Expr)

inductive ArithmeticFault where
  | noPrimary
  | noEnd
  | noParenthesis
  | noColon
  | zeroDivisor
  | noNumber (value : Text)
  deriving DecidableEq, Repr

/-- the wording of a fault of the expression `t` -/
def ArithmeticFault.message (t : Text) : ArithmeticFault → Text
  | noPrimary => "arithmetic expression: expecting primary: \"" ++ t ++ "\""
  | noEnd => "arithmetic expression: expecting EOF: \"" ++ t ++ "\""
  | noParenthesis => "arithmetic expression: expecting ')': \"" ++ t ++ "\""
  | noColon => "arithmetic expression: expecting ':': \"" ++ t ++ "\""
  | zeroDivisor => "arithmetic expression: division by zero: \"" ++ t ++ "\""
  | noNumber v => "Illegal number: " ++ v

/-! ## lexemes -/

/-- the numbers, names and signs of an expression -/
inductive Lexeme where
  | number (n : Int)
  | name (t : Text)
  | sign (t : Text)
  deriving DecidableEq, Repr

/-- the number that a text begins with, and the number of its characters: a zero announces base
eight, and with an x base sixteen -/
def numeral (t : Text) : Nat × Nat :=
  match t with
  | '0' :: x :: r =>
    if (x = 'x' ∨ x = 'X') ∧ (digitRun 16 r).2 ≠ 0 then ((digitRun 16 r).1, (digitRun 16 r).2 + 2)
    else digitRun 8 t
  | _ => digitRun 10 t

def wrap (n : Int) : Int := Int.bmod n (Nat.pow 2 64)

def clamp (n : Int) : Int := max (-(Int.pow 2 63)) (min (Int.pow 2 63 - 1) n)

/-- the signs of expressions, longer ones first -/
def signs : List Text :=
  (["<<=", ">>=", "<<", ">>", "<=", ">=", "==", "!=", "&&", "||", "*=", "/=", "%=", "+=", "-=",
    "&=", "^=", "|=", "*", "/", "%", "+", "-", "<", ">", "=", "&", "^", "|", "!", "~", "?", ":",
    "(", ")"] : List String).map String.toList

def lexemes : Nat → Text → List Lexeme
  | _, [] => []
  | skip + 1, _ :: r => lexemes skip r
  | 0, c :: r =>
    if isSpace c then lexemes 0 r
    else if c.isDigit then
      .number (clamp (numeral (c :: r)).1) :: lexemes ((numeral (c :: r)).2 - 1) r
    else if isVariableStart c then
      let rest := r.takeWhile isVariableChar
      .name (c :: rest) :: lexemes rest.length r
    else
      match signs.find? fun s => s.isPrefixOf (c :: r) with
      | some s => .sign s :: lexemes (s.length - 1) r
      | none => .sign [c] :: lexemes 0 r

/-! ## reading -/

abbrev Parsed := Except ArithmeticFault (Expr × List Lexeme)

/-- the operator of an assignment's sign: none for a plain one -/
def assignment? (s : Text) : Option (Option Operator) :=
  if s = ['='] then some none
  else if s.getLast? = some '=' then
    match operators.lookup s.dropLast with
    | some (op, rank) => if rank ∈ [10, 9, 8, 5, 4, 3] then some (some op) else none
    | none => none
  else none

mutual

/-- an assignment, or an expression that assigns nothing at its top -/
def readAssignment : Nat → List Lexeme → Parsed
  | 0, _ => .error .noPrimary
  | n + 1, ls =>
    match ls with
    | .name x :: .sign s :: r =>
      match assignment? s with
      | some op => do
        let (e, r) ← readAssignment n r
        .ok (.assign x op e, r)
      | none => readChoice n ls
    | _ => readChoice n ls

/-- an expression with a question mark, or one without -/
def readChoice : Nat → List Lexeme → Parsed
  | 0, _ => .error .noPrimary
  | n + 1, ls => do
    let (a, ls) ← readPrimary n ls
    let (test, ls) ← readBinary n 1 a ls
    match ls with
    | .sign ['?'] :: r =>
      let (yes, r) ← readAssignment n r
      match r with
      | .sign [':'] :: r =>
        let (no, r) ← readChoice n r
        .ok (.choice test yes no, r)
      | _ => .error .noColon
    | _ => .ok (test, ls)

/-- the expression that operators of at least some rank make of a first operand -/
def readBinary : Nat → Nat → Expr → List Lexeme → Parsed
  | 0, _, _, _ => .error .noPrimary
  | n + 1, least, a, ls =>
    match ls with
    | .sign s :: r =>
      match operators.lookup s with
      | some (op, rank) =>
        if rank < least then .ok (a, ls)
        else do
          let (b, r) ← readPrimary n r
          let (b, r) ← readBinary n (rank + 1) b r
          readBinary n least (.binary op a b) r
      | none => .ok (a, ls)
    | _ => .ok (a, ls)

def readPrimary : Nat → List Lexeme → Parsed
  | 0, _ => .error .noPrimary
  | n + 1, ls =>
    match ls with
    | .number k :: r => .ok (.number k, r)
    | .name x :: r => .ok (.value x, r)
    | .sign ['('] :: r => do
      let (e, r) ← readAssignment n r
      match r with
      | .sign [')'] :: r => .ok (e, r)
      | _ => .error .noParenthesis
    | .sign ['+'] :: r => (readPrimary n r).map fun p => (.change .same p.1, p.2)
    | .sign ['-'] :: r => (readPrimary n r).map fun p => (.change .negative p.1, p.2)
    | .sign ['~'] :: r => (readPrimary n r).map fun p => (.change .complement p.1, p.2)
    | .sign ['!'] :: r => (readPrimary n r).map fun p => (.change .negation p.1, p.2)
    | _ => .error .noPrimary

end

def Expr.parse (t : Text) : Except ArithmeticFault Expr :=
  let ls := lexemes 0 t
  if ls = [] then .ok (.number 0)
  else
    match readAssignment (4 * ls.length + 4) ls with
    | .ok (e, []) => .ok e
    | .ok _ => .error .noEnd
    | .error f => .error f

/-! ## values -/

def truth (b : Bool) : Int := if b then 1 else 0

def bitwise (f : BitVec 64 → BitVec 64 → BitVec 64) (a b : Int) : Int :=
  (f (BitVec.ofInt 64 a) (BitVec.ofInt 64 b)).toInt

/-- the value of an operator between two numbers; division goes toward zero -/
def Operator.apply (op : Operator) (a b : Int) : Except ArithmeticFault Int :=
  match op with
  | times => .ok (wrap (a * b))
  | divide => if b = 0 then .error .zeroDivisor else .ok (wrap (a.tdiv b))
  | modulo => if b = 0 then .error .zeroDivisor else .ok (a.tmod b)
  | plus => .ok (wrap (a + b))
  | minus => .ok (wrap (a - b))
  | left => .ok (wrap (a * Int.pow 2 (b % 64).toNat))
  | right => .ok (a / Int.pow 2 (b % 64).toNat)
  | less => .ok (truth (a < b))
  | atMost => .ok (truth (a ≤ b))
  | greater => .ok (truth (b < a))
  | atLeast => .ok (truth (b ≤ a))
  | equal => .ok (truth (a = b))
  | unequal => .ok (truth (a ≠ b))
  | bitAnd => .ok (bitwise (· &&& ·) a b)
  | bitXor => .ok (bitwise (· ^^^ ·) a b)
  | bitOr => .ok (bitwise (· ||| ·) a b)
  | both => .ok (truth (a ≠ 0 ∧ b ≠ 0))
  | either => .ok (truth (a ≠ 0 ∨ b ≠ 0))

def Change.apply (c : Change) (a : Int) : Int :=
  match c with
  | same => a
  | negative => wrap (-a)
  | complement => -a - 1
  | negation => truth (a = 0)

abbrev Values := List (Text × Text)

/-- the number that a variable holds; one that is empty or not set holds zero -/
def valueOf (vs : Values) (x : Text) : Except ArithmeticFault Int :=
  let v := strip ((vs.lookup x).getD [])
  let (negative, digits) := match v with
    | '-' :: d => (true, d)
    | '+' :: d => (false, d)
    | d => (false, d)
  if v = [] then .ok 0
  else if digits = [] ∨ (numeral digits).2 < digits.length then
    .error (.noNumber ((vs.lookup x).getD []))
  else .ok (clamp (if negative then -(numeral digits).1 else (numeral digits).1))

def Expr.eval (vs : Values) : Expr → Except ArithmeticFault (Int × Values)
  | number n => .ok (n, vs)
  | value x => (valueOf vs x).map fun n => (n, vs)
  | change c e => (e.eval vs).map fun p => (c.apply p.1, p.2)
  | binary op a b => do
    let (x, vs) ← a.eval vs
    if op = .both ∧ x = 0 then .ok (0, vs)
    else if op = .either ∧ x ≠ 0 then .ok (1, vs)
    else
      let (y, vs) ← b.eval vs
      (op.apply x y).map fun n => (n, vs)
  | choice t a b => do
    let (x, vs) ← t.eval vs
    if x ≠ 0 then a.eval vs else b.eval vs
  | assign x op e => do
    let (y, vs) ← e.eval vs
    let n ←
      match op with
      | none => .ok y
      | some op => do op.apply (← valueOf vs x) y
    .ok (n, (x, ofInt n) :: vs)

end Shell
end CoroBridge
