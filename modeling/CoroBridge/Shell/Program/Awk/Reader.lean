import CoroBridge.Shell.Program.Awk.Syntax
import CoroBridge.Shell.Program.Awk.Token
import CoroBridge.Shell.State

/-!
# Command language: the language of `awk`, reading

How the tokens of a program for `awk` make up a program.

* `Awk.Kind`            what a name stands for;
* `Awk.Parse`           the reading of tokens, with complaints;
* `Awk.Parse.expr`      an expression;
* `Awk.Parse.stmt`      a statement;
* `Awk.Code.of`         the program that a text is.
-/

namespace CoroBridge
namespace Shell
namespace Awk

inductive Kind where
  | variable
  | table
  | function
  deriving DecidableEq, Repr

def Kind.word : Kind → Text
  | .variable => "variable"
  | .table => "array"
  | .function => "function"

/-- a part of a program in which some statements have no meaning -/
inductive Scope where
  | edge
  | main
  | function
  deriving DecidableEq, Repr

/-- how far reading has come: the tokens that are left, the kinds of names in the whole program and in
a function, the calls of functions with their lines, complaints that do not put an end to it, the
number of loops that are open, and the part of the program -/
structure Reading where
  rest : List Lexeme
  globals : List (Text × Kind)
  locals : List (Text × Option Kind)
  calls : List (Text × Nat × Nat)
  notes : List Text
  loops : Nat
  scope : Scope

abbrev Parse := StateT Reading (Except (List Text))

namespace Parse

/-! ## tokens -/

def onLine (line : Nat) (what : Text) : Text := "line " ++ Text.ofNat line ++ ": " ++ what

/-- tokens without those at their beginning that nothing is done with, and the complaints about
those -/
def dropStrays : List Lexeme → List Text × List Lexeme
  | [] => ([], [])
  | x :: xs =>
    match x.token with
    | .stray c =>
      let (notes, rest) := dropStrays xs
      (onLine x.line ("extra '" ++ [c] ++ "'") :: notes, rest)
    | _ => ([], x :: xs)

def lexeme : Parse Lexeme := do
  return (← get).rest.headD ⟨.finish, 0, 0, 0⟩

def peek : Parse Token := return (← lexeme).token

def second : Parse Token := do
  return ((← get).rest.drop 1).head?.elim .finish Lexeme.token

def skip : Parse Unit := modify fun s =>
  let (notes, rest) := dropStrays (s.rest.drop 1)
  { s with rest := rest, notes := s.notes ++ notes }

def note (what : Text) : Parse Unit := do
  let x ← lexeme
  modify fun s => { s with notes := s.notes ++ [onLine x.line what] }

/-- the next token stands where it has no meaning -/
def unexpected {α : Type} : Parse α := do
  let x ← lexeme
  let shown := x.token.shown
  let unclosed : Bool := match x.token with
    | .finish => true
    | .line => true
    | .closing => true
    | .sign t => t == [';'] || t == ['\x7d']
    | _ => false
  let outside : Bool := match x.token with
    | .finish => true
    | .keyword t => t = "BEGIN".toList ∨ t = "END".toList
    | _ => false
  let what : Text := match x.token with
    | .foreign c => Text.ofNat x.line ++ ": unexpected character '" ++ [c] ++ "'"
    | .fault what => onLine x.line what
    | _ =>
      onLine x.line
        (if x.brackets ≠ 0 ∧ unclosed then "missing ) near " ++ shown
        else if x.braces ≠ 0 ∧ outside then "missing \x7d near " ++ shown
        else "syntax error at or near " ++ shown)
  throw ((← get).notes ++ [what])

def isSign (t : Text) : Parse Bool := do
  match ← peek with
  | .sign s => return s == t
  | _ => return false

/-- whether the next token is a word of the language -/
def isWord (t : Text) : Parse Bool := do
  match ← peek with
  | .keyword s => return s == t
  | _ => return false

def sign? (t : Text) : Parse Bool := do
  if ← isSign t then
    skip
    return true
  else return false

/-- a word of the language passed, if it is the next token -/
def word? (t : Text) : Parse Bool := do
  if ← isWord t then
    skip
    return true
  else return false

def sign (t : Text) : Parse Unit := do if !(← sign? t) then unexpected

def lines : Nat → Parse Unit
  | 0 => return
  | n + 1 => do
    match ← peek with
    | .line =>
      skip
      lines n
    | _ => return

def atEnd : Parse Bool := do
  match ← peek with
  | .line => return true
  | .closing => return true
  | .sign t => return t == [';']
  | _ => return false

def separator : Parse Unit := do if ← atEnd then skip else unexpected

/-! ## names -/

def use (name : Text) (kind : Kind) : Parse Unit := do
  let s ← get
  let wrong := fun (k : Kind) => note ("illegal reference to " ++ k.word ++ " " ++ name)
  match s.locals.lookup name with
  | some none => set { s with locals := Shell.put name (some kind) s.locals }
  | some (some k) => if k ≠ kind then wrong k
  | none =>
    match s.globals.lookup name with
    | none => set { s with globals := (name, kind) :: s.globals }
    | some .function => if kind ≠ .function then unexpected
    | some k => if k ≠ kind then wrong k

/-- whether a name stands for a function where a bracket follows it -/
def isFunction (name : Text) (called : Bool) : Parse Bool := do
  let s ← get
  if (s.locals.lookup name).isSome then return false
  else
    match s.globals.lookup name with
    | some k => return k == .function
    | none => return called

def name : Parse Text := do
  match ← peek with
  | .name t _ =>
    skip
    return t
  | _ => unexpected

/-! ## expressions -/

/-- what a sign between two expressions makes of them, where those are of a rank; the comparison by a
greater sign is left out where that leads to a file -/
def between? (rank : Nat) (greater : Bool) (t : Token) : Option (Expr → Expr → Expr) :=
  match t with
  | .sign t =>
    match rank, String.ofList t with
    | 0, "||" => some .either
    | 1, "&&" => some .both
    | 3, "~" => some (.fits true)
    | 3, "!~" => some (.fits false)
    | 4, "<" => some (.compare .less)
    | 4, "<=" => some (.compare .notMore)
    | 4, "==" => some (.compare .equal)
    | 4, "!=" => some (.compare .unequal)
    | 4, ">" => if greater then some (.compare .more) else none
    | 4, ">=" => some (.compare .notLess)
    | _, _ => none
  | _ => none

/-- the operation that comes with an assignment, if the token is one -/
def assigning? : Token → Option (Option Operation)
  | .sign t =>
    match String.ofList t with
    | "=" => some none
    | "+=" => some (some .add)
    | "-=" => some (some .subtract)
    | "*=" => some (some .multiply)
    | "/=" => some (some .divide)
    | "%=" => some (some .remain)
    | "^=" => some (some .power)
    | _ => none
  | _ => none

/-- the operation on numbers that a token between sums, or between products, is -/
def operation? (sums : Bool) : Token → Option Operation
  | .sign t =>
    match sums, String.ofList t with
    | true, "+" => some .add
    | true, "-" => some .subtract
    | false, "*" => some .multiply
    | false, "/" => some .divide
    | false, "%" => some .remain
    | _, _ => none
  | _ => none

/-- whether a further text that is joined to others begins with a token -/
def joins : Token → Bool
  | .number _ _ => true
  | .text _ => true
  | .regex _ => true
  | .name _ _ => true
  | .builtin _ => true
  | .keyword t => t = "getline".toList
  | .sign t => t == ['('] || t == ['$'] || t == ['!'] || t == "++".toList || t == "--".toList
  | _ => false

/-- the least and the greatest number of arguments of a function that every program has -/
def arity (t : Text) : Nat × Nat :=
  match String.ofList t with
  | "substr" => (2, 3)
  | "index" => (2, 2)
  | "match" => (2, 2)
  | "atan2" => (2, 2)
  | "sprintf" => (1, 255)
  | "rand" => (0, 0)
  | "systime" => (0, 0)
  | "srand" => (0, 1)
  | "fflush" => (0, 1)
  | "strftime" => (0, 3)
  | _ => (1, 1)

def regexOf (t : Text) : Parse Expr := do
  match regex t with
  | .ok r => return .regex r
  | .error f =>
    let x ← lexeme
    throw ((← get).notes ++ [onLine x.line
      ("regular expression compile failed (" ++ f.message ++ ")\n" ++ t)])

/-- an expression where a regular expression is wanted -/
def constant (e : Expr) : Parse Expr := do
  match e with
  | .text t => regexOf t
  | e => return e

mutual

def expr : Nat → Bool → Parse Expr
  | 0, _ => unexpected
  | n + 1, greater => do
    let e ← ranked n 0 greater
    if ← sign? ['?'] then
      lines n
      let yes ← expr n greater
      lines n
      sign [':']
      lines n
      let no ← expr n greater
      return .choice e yes no
    else return e

def ranked : Nat → Nat → Bool → Parse Expr
  | 0, _, _ => unexpected
  | n + 1, rank, greater => do
    if rank ≥ 5 then operand n greater
    else
      let a ← ranked n (rank + 1) greater
      rankedRest n rank greater a

/-- an expression of a rank, the first part of which is known -/
def rankedRest : Nat → Nat → Bool → Expr → Parse Expr
  | 0, _, _, _ => unexpected
  | n + 1, rank, greater, a => do
    if rank = 2 then
      if ← word? "in" then
        let t ← name
        use t .table
        let m ← rankedRest n 4 greater (.member [a] t)
        let m ← rankedRest n 3 greater m
        rankedRest n rank greater m
      else return a
    else
      match between? rank greater (← peek) with
      | none => return a
      | some make =>
        skip
        let b ← ranked n (rank + 1) greater
        let b ← if rank = 3 then constant b else pure b
        rankedRest n rank greater (make a b)

def operand : Nat → Bool → Parse Expr
  | 0, _ => unexpected
  | n + 1, greater => do
    let bracketed ← isSign ['(']
    let a ← sum n
    let a ← joinRest n a
    match a, assigning? (← peek) with
    | .kept c, some op =>
      if bracketed then unexpected
      else
        skip
        return .assign op c (← expr n greater)
    | _, _ => return a

def joinRest : Nat → Expr → Parse Expr
  | 0, _ => unexpected
  | n + 1, a => do
    if joins (← peek) then
      let b ← sum n
      joinRest n (.join a b)
    else return a

def sum : Nat → Parse Expr
  | 0 => unexpected
  | n + 1 => do
    let a ← product n
    sumRest n a

def sumRest : Nat → Expr → Parse Expr
  | 0, _ => unexpected
  | n + 1, a => do
    match operation? true (← peek) with
    | none => return a
    | some op =>
      skip
      let b ← product n
      sumRest n (.operate op a b)

def product : Nat → Parse Expr
  | 0 => unexpected
  | n + 1 => do
    let a ← unary n
    productRest n a

def productRest : Nat → Expr → Parse Expr
  | 0, _ => unexpected
  | n + 1, a => do
    match operation? false (← peek) with
    | none => return a
    | some op =>
      skip
      let b ← unary n
      productRest n (.operate op a b)

def unary : Nat → Parse Expr
  | 0 => unexpected
  | n + 1 => do
    if ← sign? ['!'] then return .not (← unary n)
    else if ← sign? ['-'] then return .negate (← unary n)
    else if ← sign? ['+'] then return .numeric (← unary n)
    else
      let a ← piped n
      if ← sign? ['^'] then return .operate .power a (← unary n) else return a

/-- an expression that may be a command from which a line is read -/
def piped : Nat → Parse Expr
  | 0 => unexpected
  | n + 1 => do
    let a ← postfixed n
    pipedRest n a

/-- a command from which a line is read, and so on -/
def pipedRest : Nat → Expr → Parse Expr
  | 0, _ => unexpected
  | n + 1, a => do
    if ← isSign ['|'] then
      match ← second with
      | .keyword t =>
        if t = "getline".toList then
          skip
          skip
          let into ← cell? n
          pipedRest n (.readLine (.command a) into)
        else return a
      | _ => return a
    else return a

/-- an expression that may be changed after it is used -/
def postfixed : Nat → Parse Expr
  | 0 => unexpected
  | n + 1 => do
    let bracketed ← isSign ['(']
    let a ← primary n
    match a with
    | .kept c =>
      if bracketed then return a
      else if ← sign? "++" then return .step false true c
      else if ← sign? "--" then return .step false false c
      else return a
    | _ => return a

def cell : Nat → Parse Cell
  | 0 => unexpected
  | n + 1 => do
    match ← peek with
    | .name t _ =>
      skip
      if ← sign? ['['] then
        use t .table
        let es ← exprs n
        sign [']']
        return .element t es
      else
        use t .variable
        return .variable t
    | .sign ['$'] =>
      skip
      return .field (← index n)
    | _ => unexpected

def cell? : Nat → Parse (Option Cell)
  | 0 => unexpected
  | n + 1 => do
    match ← peek with
    | .name _ _ => return some (← cell n)
    | .sign ['$'] => return some (← cell n)
    | _ => return none

def index : Nat → Parse Expr
  | 0 => unexpected
  | n + 1 => do
    if ← sign? ['-'] then return .negate (← index n)
    else if ← sign? ['+'] then return .numeric (← index n)
    else if ← sign? ['!'] then return .not (← index n)
    else primary n

def exprs : Nat → Parse (List Expr)
  | 0 => unexpected
  | n + 1 => do
    let e ← expr n true
    if ← sign? [','] then return e :: (← exprs n) else return [e]

/-- the arguments of a call between brackets, which may be none -/
def arguments : Nat → Parse (List Expr)
  | 0 => unexpected
  | n + 1 => do
    sign ['(']
    if ← sign? [')'] then return []
    else
      let es ← exprs n
      sign [')']
      return es

/-- the arguments of a function of the program; a name alone may stand for a table -/
def passed : Nat → Parse (List Expr)
  | 0 => unexpected
  | n + 1 => do
    match ← peek, ← second with
    | .name t _, .sign s =>
      if s == [','] || s == [')'] then
        skip
        if ← sign? [','] then return .kept (.variable t) :: (← passed n)
        else
          sign [')']
          return [.kept (.variable t)]
      else passedRest n
    | _, _ => passedRest n

/-- the arguments of a function of the program, of which the first one is no name alone -/
def passedRest : Nat → Parse (List Expr)
  | 0 => unexpected
  | n + 1 => do
    let e ← expr n true
    if ← sign? [','] then return e :: (← passed n)
    else
      sign [')']
      return [e]

def primary : Nat → Parse Expr
  | 0 => unexpected
  | n + 1 => do
    match ← peek with
    | .number x _ =>
      skip
      return .number x
    | .text t =>
      skip
      return .text t
    | .regex t =>
      let e ← regexOf t
      skip
      return e
    | .name t called =>
      if ← isFunction t called then
        let x ← lexeme
        use t .function
        skip
        sign ['(']
        let args ← if ← sign? [')'] then pure [] else passed n
        modify fun s => { s with calls := s.calls ++ [(t, args.length, x.line)] }
        return .call t args
      else return .kept (← cell n)
    | .sign ['$'] => return .kept (← cell n)
    | .sign ['('] =>
      skip
      let es ← exprs n
      sign [')']
      match es with
      | [e] => return e
      | _ =>
        if ← word? "in" then
          let t ← name
          use t .table
          return .member es t
        else unexpected
    | .sign ['+', '+'] =>
      skip
      return .step true true (← cell n)
    | .sign ['-', '-'] =>
      skip
      return .step true false (← cell n)
    | .keyword t =>
      if t = "getline".toList then
        skip
        let into ← cell? n
        if ← sign? ['<'] then return .readLine (.file (← postfixed n)) into
        else return .readLine .input into
      else unexpected
    | .builtin t => builtin n t
    | _ => unexpected

/-- a call of a function that every program has -/
def builtin : Nat → Text → Parse Expr
  | 0, _ => unexpected
  | n + 1, t => do
    skip
    if t = "length".toList then
      if ← sign? ['('] then
        if ← sign? [')'] then return .use t []
        else
          match ← peek, ← second with
          | .name x _, .sign [')'] =>
            skip
            skip
            return .sizeOf x
          | _, _ =>
            let e ← expr n true
            sign [')']
            return .use t [e]
      else return .use t []
    else if t = "sub".toList ∨ t = "gsub".toList then
      sign ['(']
      let pattern ← constant (← expr n true)
      sign [',']
      let replacement ← expr n true
      let into ← if ← sign? [','] then pure (some (← cell n)) else pure none
      sign [')']
      return .substitute (t == "gsub".toList) pattern replacement into
    else if t = "split".toList then
      sign ['(']
      let subject ← expr n true
      sign [',']
      let table ← name
      use table .table
      let separator ← if ← sign? [','] then pure (some (← expr n true)) else pure none
      sign [')']
      return .split subject table separator
    else if t = "fflush".toList ∧ !(← isSign ['(']) then return .use t []
    else
      let es ← arguments n
      let (least, most) := arity t
      if es.length < least ∨ most < es.length then
        note ("wrong number of arguments in call to " ++ t)
      match String.ofList t, es with
      | "match", [a, b] => return .use t [a, ← constant b]
      | _, _ => return .use t es

end

/-! ## statements -/

def looped {α : Type} (p : Parse α) : Parse α := do
  modify fun s => { s with loops := s.loops + 1 }
  let a ← p
  modify fun s => { s with loops := s.loops - 1 }
  return a

/-- the arguments of a statement that writes, up to the end or to a place where they go -/
def printed (n : Nat) : Parse (List Expr) := do
  let stops : Parse Bool := do
    match ← peek with
    | .sign t => return t == ['>'] || t == ">>".toList || t == ['|'] || t == [';']
    | _ => atEnd
  let grouped : Parse (Option (List Expr)) := do
    if ← isSign ['('] then
      let es ← arguments n
      return if ← stops then some es else none
    else return none
  let rec plain : Nat → Parse (List Expr)
    | 0 => unexpected
    | k + 1 => do
      let e ← expr n false
      if ← sign? [','] then return e :: (← plain k) else return [e]
  if ← stops then return []
  else
    match grouped.run (← get) with
    | .ok (some es, s) =>
      set s
      return es
    | _ => plain n

def outlet? (n : Nat) : Parse (Option (Outlet × Expr)) := do
  if ← sign? ['>'] then return some (.file, ← expr n true)
  else if ← sign? ">>" then return some (.end_, ← expr n true)
  else if ← sign? ['|'] then return some (.command, ← expr n true)
  else return none

def expr? (n : Nat) : Parse (Option Expr) := do
  if ← atEnd then return none else return some (← expr n true)

def test (n : Nat) : Parse Expr := do
  sign ['(']
  let e ← expr n true
  sign [')']
  return e

/-- a loop over the indices of a table, as far as its closing bracket, if there is one -/
def over? : Parse (Option (Text × Text)) := do
  match ((← get).rest.map Lexeme.token).take 4 with
  | [.name x _, .keyword w, .name t _, .sign [')']] =>
    if w = "in".toList then
      skip
      skip
      use t .table
      use x .variable
      skip
      skip
      return some (x, t)
    else return none
  | _ => return none

mutual

def stmt : Nat → Parse Stmt
  | 0 => unexpected
  | n + 1 => do
    if ← isSign ['\x7b'] then return .block (← block n)
    else if ← atEnd then
      skip
      return .block []
    else
      match ← peek with
      | .keyword t =>
        match String.ofList t with
        | "if" =>
          skip
          let e ← test n
          lines n
          let yes ← stmt n
          if ← word? "else" then return .test e yes (some (← stmt n)) else return .test e yes none
        | "while" =>
          skip
          let e ← test n
          lines n
          return .loop e (← looped (stmt n))
        | "do" =>
          skip
          let body ← looped (stmt n)
          if !(← word? "while") then unexpected
          let e ← test n
          separator
          return .lateLoop body e
        | "for" =>
          skip
          sign ['(']
          match ← over? with
          | some (x, t) =>
            lines n
            return .each x t (← looped (stmt n))
          | none =>
            let first ← expr? n
            sign [';']
            let e ← expr? n
            sign [';']
            let next ← if ← isSign [')'] then pure none else pure (some (← expr n true))
            sign [')']
            lines n
            return .steps first e next (← looped (stmt n))
        | _ =>
          let s ← simple n t
          separator
          return s
      | _ =>
        let e ← expr n true
        separator
        return .expr e

/-- a statement that begins with a word of the language and holds no other statement -/
def simple : Nat → Text → Parse Stmt
  | 0, _ => unexpected
  | n + 1, t => do
    match String.ofList t with
    | "print" =>
      skip
      let es ← printed n
      return .print es (← outlet? n)
    | "printf" =>
      skip
      let es ← printed n
      if es.isEmpty then note "no arguments in call to printf"
      return .format es (← outlet? n)
    | "break" =>
      skip
      if (← get).loops = 0 then note "break statement outside of loop"
      return .leave
    | "continue" =>
      skip
      if (← get).loops = 0 then note "continue statement outside of loop"
      return .again
    | "next" =>
      skip
      if (← get).scope ≠ .main then note "improper use of next"
      return .next
    | "nextfile" =>
      skip
      if (← get).scope ≠ .main then note "improper use of nextfile"
      return .nextFile
    | "exit" =>
      skip
      return .exit (← expr? n)
    | "return" =>
      skip
      if (← get).scope ≠ .function then note "return outside function body"
      return .back (← expr? n)
    | "delete" =>
      skip
      let t ← name
      use t .table
      if ← sign? ['['] then
        let es ← exprs n
        sign [']']
        return .delete t es
      else return .delete t []
    | _ => return .expr (← expr n true)

def block : Nat → Parse (List Stmt)
  | 0 => unexpected
  | n + 1 => do
    sign ['\x7b']
    stmts n

def stmts : Nat → Parse (List Stmt)
  | 0 => unexpected
  | n + 1 => do
    if ← sign? ['\x7d'] then return []
    else
      let s ← stmt n
      return s :: (← stmts n)

end

/-! ## programs -/

/-- the names of a function's arguments, after the opening bracket -/
def params : Nat → Parse (List Text)
  | 0 => unexpected
  | n + 1 => do
    if ← sign? [')'] then return []
    else
      let t ← name
      if ← sign? [','] then
        let ts ← params n
        if t ∈ ts then note (t ++ " is duplicated in argument list")
        return t :: ts
      else
        sign [')']
        return [t]

def function (n : Nat) : Parse (Text × Function) := do
  let t ← name
  if (← get).globals.lookup t = some .function ∧ !(← get).calls.any (·.1 == t) then
    note ("redefinition of " ++ t)
  use t .function
  sign ['(']
  let ps ← params n
  modify fun s => { s with locals := ps.map (·, none), scope := .function }
  lines n
  let body ← block n
  modify fun s => { s with locals := [] }
  return (t, ⟨ps, .block body⟩)

def blockIn (n : Nat) (scope : Scope) : Parse Stmt := do
  modify fun s => { s with scope := scope }
  return .block (← block n)

mutual

/-- the rules and functions of a program, after those that are known -/
def items : Nat → Code → Parse Code
  | 0, c => return c
  | n + 1, c => do
    match ← peek with
    | .finish => return c
    | .keyword t =>
      match String.ofList t with
      | "BEGIN" =>
        skip
        items n { c with start := c.start ++ [← blockIn n .edge] }
      | "END" =>
        skip
        items n { c with finish := c.finish ++ [← blockIn n .edge] }
      | "function" =>
        skip
        items n { c with functions := c.functions ++ [← function n] }
      | _ => rule n c
    | .sign ['\x7b'] =>
      items n { c with rules := c.rules ++ [⟨.all, some (← blockIn n .main)⟩] }
    | _ => rule n c

/-- a rule with a pattern, and what comes after it -/
def rule : Nat → Code → Parse Code
  | 0, c => return c
  | n + 1, c => do
    let e ← expr n true
    let pattern ← if ← sign? [','] then pure (.range e (← expr n true)) else pure (.test e)
    if ← isSign ['\x7b'] then
      items n { c with rules := c.rules ++ [⟨pattern, some (← blockIn n .main)⟩] }
    else
      separator
      items n { c with rules := c.rules ++ [⟨pattern, none⟩] }

end

end Parse

def givenNames : List (Text × Kind) :=
  (["NF", "NR", "FNR", "FS", "OFS", "ORS", "RS", "FILENAME", "SUBSEP", "RSTART", "RLENGTH",
    "CONVFMT", "OFMT", "ARGC"] : List String).map (fun t => (t.toList, .variable))
    ++ [("ARGV".toList, .table), ("ENVIRON".toList, .table)]

def Code.of (t : Text) : Except (List Text) Code := do
  let ls := lexemes t
  let (notes, rest) := Parse.dropStrays ls
  let (c, s) ← (Parse.items (24 * ls.length + 48) ⟨[], [], [], []⟩).run
    ⟨rest, givenNames, [], [], notes, 0, .main⟩
  let last := (ls.getLast?.map Lexeme.line).getD 1
  let wrong := s.calls.filterMap fun (f, count, line) =>
    match c.functions.lookup f with
    | none => some (Parse.onLine last ("function " ++ f ++ " never defined"))
    | some g =>
      if g.params.length < count then
        some (Parse.onLine line ("too many arguments in call to " ++ f))
      else none
  match s.notes ++ wrong with
  | [] => .ok c
  | ts => .error ts

end Awk
end Shell
end CoroBridge
