import CoroBridge.Shell.Program.Perl.Word

/-!
# Command language: the language of `perl`, reading

How the words of a program for `perl` make up a program.

* `Perl.Parse.quoted`    the pieces of a text between quotes;
* `Perl.Parse.expr`      an expression;
* `Perl.Parse.stmt`      a statement;
* `Perl.Program.of`      the program that a text is.
-/

namespace CoroBridge
namespace Shell
namespace Perl
namespace Parse

def isComma : Parse Bool := do
  let c ← peek
  return c == ',' || (c == '=' && ((← rest).drop 1).head? == some '>')

def listed : Expr → List Expr
  | .list es => es
  | e => [e]

def ended : Parse Unit := do
  let c ← peek
  if c = '\x7d' ∨ c = '\x00' then return else sign [';']

def exchange : Parse Expr := do
  let (_, t, _, u) ← delimitedTwice "Transliteration pattern" "Transliteration replacement"
  let w ← letters
  let k : ExchangeFlags := ⟨w.contains 'c', w.contains 'd', w.contains 's', w.contains 'r'⟩
  return .exchange none (exchanged (t.length + 1) t) (exchanged (u.length + 1) u) k

/-- a word that writes lines where it is not known as such -/
def unsaid (w : Text) : Parse Expr := do
  blanks
  let t ← rest
  let found : Option (Text × Text) :=
    match t with
    | '"' :: r => some ("String", '"' :: r.takeWhile (· != '"') ++ ['"'])
    | '\x27' :: r => some ("String", '\x27' :: r.takeWhile (· != '\x27') ++ ['\x27'])
    | '$' :: r => some ("Scalar", '$' :: r.takeWhile isVariableChar)
    | '@' :: r => some ("Array", '@' :: r.takeWhile isVariableChar)
    | c :: _ => if c.isDigit then some ("Number", t.takeWhile Char.isDigit) else none
    | [] => none
  match found with
  | none => return .word w
  | some (what, shown) =>
    let place := (← here) ++ ", near \"" ++ w ++ ' ' :: shown ++ "\"\n"
    fail (what ++ " found where operator expected" ++ place ++ "\t(Do you need to predeclare " ++ w
      ++ "?)\nsyntax error" ++ place ++ (← aborted))

structure Grammar where
  pieces : Bool → Text → Text → Parse (List Expr × Text)
  embedded : Bool → Text → Parse (Expr × Text)
  indices : Bool → Expr → Parse Expr
  allPieces : Bool → Text → Parse (List Expr)
  quoted : Bool → Text → Parse Expr
  target : Parse (Text ⊕ Expr)
  variable_ : Parse Expr
  index : Parse Expr
  key : Parse Expr
  expr : Parse Expr
  exprRest : Expr → Parse Expr
  lowAnd : Parse Expr
  lowAndRest : Expr → Parse Expr
  lowNot : Parse Expr
  comma : Parse Expr
  commaRest : Parse (List Expr)
  assign : Parse Expr
  choice : Parse Expr
  ranked : Nat → Parse Expr
  rankedRest : Nat → Expr → Parse Expr
  unary : Parse Expr
  postfixed : Parse Expr
  arrows : Expr → Parse Expr
  bracketed : Parse (List Expr)
  block : Parse (List Stmt)
  arguments : Parse (List Expr)
  argument : Parse (List Expr)
  term : Parse Expr
  angled : Parse Expr
  heredoc : Bool → Text → Parse Expr
  declared : Parse (List Variable)
  declaration : Bool → Parse Expr
  named : Parse Expr
  inner : Text → Parse Expr
  calling : Text → Parse Expr
  blockCall : Text → Parse Expr
  printing : Text → Parse Expr
  handle? : Parse (Option Expr)
  stmts : Parse (List Stmt)
  condition : Parse Expr
  otherwise_ : Parse (List Stmt)
  stmt : Parse (List Stmt)
  compound : Nat → Text → Text → Parse (List Stmt)
  forLoop : Nat → Text → Parse (List Stmt)
  requested : Nat → Parse (List Stmt)
  simple : Nat → Parse (List Stmt)
  modified : Nat → Expr → Parse Stmt

/-- the pieces of a text up to its end or the end of a change of case, after those characters that
were read, and what follows -/
def pieces (g : Grammar) (inPattern : Bool) (read : Text) (t : Text) : Parse (List Expr × Text) := do
  let changed := fun (f : String) (r : Text) => do
    let (ps, r) ← g.pieces inPattern [] r
    let (qs, r) ← g.pieces inPattern [] r
    return (front read (.use f.toList [joined ps] :: qs), r)
  match t with
  | [] => return (front read [], [])
  | '\\' :: 'E' :: r => return (front read [], r)
  | '\\' :: 'Q' :: r => changed "quotemeta" r
  | '\\' :: 'U' :: r => changed "uc" r
  | '\\' :: 'L' :: r => changed "lc" r
  | '\\' :: c :: r =>
    if inPattern then g.pieces inPattern (c :: '\\' :: read) r
    else if c = 'u' ∨ c = 'l' then
      let (ps, r) ← g.pieces inPattern [] r
      let f : Text := if c = 'u' then "ucfirst" else "lcfirst"
      return (front read [.use f [joined ps]], r)
    else
      let (u, r) := escapeAt (c :: r)
      g.pieces inPattern (u.reverse ++ read) r
  | '$' :: r =>
    let next := r.headD '\x00'
    let isName := isVariableStart next || next.isDigit || next == '\x7b' || next == '$'
      || next == ':' || (next == '&' || next == '@' || next == '!' || next == '0')
    let isSign := !inPattern
      && (['/', ',', ';', '.', '+', '\\', '\x60', '\x27', '?', '<', '>', '|'].contains next)
    let second := (r.drop 1).headD ' '
    let isPlaces := (next = '-' ∨ next = '+') ∧ second = '['
    let isLength := isPlaces ∨ next = '#' ∧ (isVariableStart second ∨ second = '\x7b' ∨ second = '$')
    if (isName ∧ !(next = ':' ∧ second ≠ ':')) ∨ isSign ∨ isLength then
      let (e, r) ← g.embedded inPattern t
      let (ps, r) ← g.pieces inPattern [] r
      return (front read (e :: ps), r)
    else g.pieces inPattern ('$' :: read) r
  | '@' :: r =>
    let next := r.headD '\x00'
    if isVariableStart next ∨ next = '\x7b' ∨ next = '$' then
      let (e, r) ← g.embedded inPattern t
      let (ps, r) ← g.pieces inPattern [] r
      return (front read (e :: ps), r)
    else g.pieces inPattern ('@' :: read) r
  | c :: r => g.pieces inPattern (c :: read) r

/-- a variable in a text, with its indices, and what follows -/
def embedded (g : Grammar) (inPattern : Bool) (t : Text) : Parse (Expr × Text) := do
  let s ← get
  let l ← line
  set { s with rest := t, fixedLine := some l }
  let e ← g.variable_
  let e ← g.indices inPattern e
  let r ← rest
  modify fun s' => { s' with rest := s.rest, fixedLine := s.fixedLine }
  return (e, r)

def indices (g : Grammar) (inPattern : Bool) (e : Expr) : Parse Expr := do
  match ← rest with
  | '-' :: '>' :: '[' :: r =>
    if inPattern ∧ !looksLikeIndex r then return e
    else
      setRest ('[' :: r)
      g.indices inPattern (.item (.behind .array e) (← g.index))
  | '-' :: '>' :: '\x7b' :: r =>
    setRest ('\x7b' :: r)
    g.indices inPattern (.entry (.behind .hash e) (← g.key))
  | '[' :: r =>
    match e with
    | .item _ _ => do
      if !inPattern ∨ looksLikeIndex r then
        g.indices inPattern (.item (.behind .array e) (← g.index))
      else return e
    | .entry _ _ => do
      if !inPattern ∨ looksLikeIndex r then
        g.indices inPattern (.item (.behind .array e) (← g.index))
      else return e
    | _ => return e
  | '\x7b' :: r =>
    match e with
    | .item _ _ => do
      if looksLikeKey inPattern r then
        g.indices inPattern (.entry (.behind .hash e) (← g.key))
      else return e
    | .entry _ _ => do
      if looksLikeKey inPattern r then
        g.indices inPattern (.entry (.behind .hash e) (← g.key))
      else return e
    | _ => return e
  | _ => return e

def allPieces (g : Grammar) (inPattern : Bool) (t : Text) : Parse (List Expr) := do
  let (ps, r) ← g.pieces inPattern [] t
  if r = [] then return ps else return ps ++ (← g.allPieces inPattern r)

def quoted (g : Grammar) (inPattern : Bool) (t : Text) : Parse Expr := do return joined (← g.allPieces inPattern t)

/-- the name of a variable after its sign, or what leads to it -/
def target (g : Grammar) : Parse (Text ⊕ Expr) := do
  match ← rest with
  | '\x7b' :: '^' :: r =>
    let w := r.takeWhile isVariableChar
    setRest (r.drop (w.length + 1))
    return .inl ('^' :: w)
  | '\x7b' :: r =>
    let inner := skipBlanks (r.length + 1) false r
    let w := nameAt inner
    let after := skipBlanks (inner.length + 1) false (inner.drop w.length)
    let sign := inner.takeWhile (· != '\x7d')
    match w, after with
    | _ :: _, '\x7d' :: r =>
      setRest r
      return .inl w
    | _, _ =>
      if sign.length = 1 ∧ (sign.all Char.isDigit ∨ sign.all signVariables.contains) then
        setRest (inner.drop 2)
        return .inl sign
      else
        setRest r
        let ss ← g.stmts
        sign_ "\x7d"
        match ss with
        | [.expr _ e] => return .inr e
        | ss => return .inr (.block ss)
  | '$' :: r =>
    let next := r.headD ' '
    if isVariableStart next ∨ next = '$' ∨ next = '\x7b' ∨ next = ':' then
      setRest r
      match ← g.target with
      | .inl x =>
        used (.scalar, x)
        return .inr (.variable (.scalar, x))
      | .inr e => return .inr (.behind .scalar e)
    else
      setRest r
      return .inl ['$']
  | '^' :: c :: r =>
    if c.isUpper then
      setRest r
      return .inl ['^', c]
    else
      setRest (c :: r)
      return .inl ['^']
  | ':' :: ':' :: r =>
    let w := nameAt r
    setRest (r.drop w.length)
    return .inl ("main::".toList ++ w)
  | t =>
    let w := nameAt t
    if w ≠ [] then
      setRest (t.drop w.length)
      return .inl w
    else
      let d := t.takeWhile Char.isDigit
      if d ≠ [] then
        setRest (t.drop d.length)
        return .inl d
      else
        match t with
        | c :: r =>
          if signVariables.contains c then
            setRest r
            return .inl [c]
          else unexpected
        | [] => unexpected
where
  /-- a sign passed -/
  sign_ (w : Text) : Parse Unit := do if !(← sign? w) then unexpected

/-- a variable with its sign, and an index directly after it -/
def variable_ (g : Grammar) : Parse Expr := do
  let make := fun (k : Sigil) (x : Text ⊕ Expr) => do
    match x with
    | .inl x =>
      used (k, x)
      return (.variable (k, x) : Expr)
    | .inr e => return (.behind k e : Expr)
  match ← rest with
  | '$' :: '#' :: r =>
    let next := r.headD ' '
    if isVariableStart next ∨ next = '$' ∨ next = '\x7b' then
      setRest r
      return .lastIndex (← make .array (← g.target))
    else
      setRest r
      return .variable (.scalar, ['#'])
  | '$' :: r =>
    setRest r
    let x ← g.target
    match ← rest with
    | '[' :: r =>
      if x matches .inl _ ∧ (r.headD ' ' = ']' ∨ (isPunctuation_ x)) then make .scalar x
      else do
        let a ← make .array x
        return .item a (← g.index)
    | '\x7b' :: _ =>
      if isPunctuation_ x then make .scalar x
      else do
        let h ← make .hash x
        return .entry h (← g.key)
    | _ => make .scalar x
  | '@' :: r =>
    setRest r
    let x ← g.target
    match ← rest with
    | '[' :: _ =>
      let a ← make .array x
      return .items a (← g.index)
    | '\x7b' :: _ =>
      let h ← make .hash x
      return .entries h (← g.key)
    | _ => make .array x
  | '%' :: r =>
    setRest r
    let x ← g.target
    match ← rest with
    | '\x7b' :: _ =>
      let h ← make .hash x
      return .pairs h (← g.key)
    | _ => make .hash x
  | _ => unexpected
where
  /-- whether a name is a sign after which a bracket is no index -/
  isPunctuation_ : Text ⊕ Expr → Bool
  | .inl [c] => !isVariableChar c && c != '+' && c != '-' && c != '!' && c != '@'
  | _ => false

/-- an index between brackets -/
def index (g : Grammar) : Parse Expr := do
  sign ['[']
  let e ← g.expr
  sign [']']
  return e

/-- a key between braces: a word stands for itself -/
def key (g : Grammar) : Parse Expr := do
  sign ['\x7b']
  blanks
  let t ← rest
  let minus := if t.head? = some '-' then 1 else 0
  let w := nameAt (t.drop minus)
  let after := skipBlanks (t.length + 1) false (t.drop (minus + w.length))
  match w, after with
  | _ :: _, '\x7d' :: r =>
    setRest r
    return .text (t.take minus ++ w)
  | _, _ =>
    let e ← g.expr
    sign ['\x7d']
    return e

def expr (g : Grammar) : Parse Expr := do
  let a ← g.lowAnd
  g.exprRest a

def exprRest (g : Grammar) (a : Expr) : Parse Expr := do
  if ← word? "or" then
    let b ← g.lowAnd
    g.exprRest (.either a b)
  else if ← word? "xor" then
    let b ← g.lowAnd
    g.exprRest (.binary "xor" a b)
  else return a

def lowAnd (g : Grammar) : Parse Expr := do
  let a ← g.lowNot
  g.lowAndRest a

def lowAndRest (g : Grammar) (a : Expr) : Parse Expr := do
  if ← word? "and" then
    let b ← g.lowNot
    g.lowAndRest (.both a b)
  else return a

def lowNot (g : Grammar) : Parse Expr := do
  if ← word? "not" then return .unary "!" (← g.lowNot) else g.comma

def comma (g : Grammar) : Parse Expr := do
  let e ← g.assign
  if ← isComma then return .list (e :: (← g.commaRest)) else return e

def commaRest (g : Grammar) : Parse (List Expr) := do
  if (← sign? [',']) || (← sign? "=>") then
    if ← isComma then g.commaRest
    else
      let c ← peek
      if c = ')' ∨ c = ']' ∨ c = '\x7d' ∨ c = ';' ∨ c = '\x00'
          ∨ stops.contains (← nextWord) then return []
      else
        let e ← g.assign
        return e :: (← g.commaRest)
  else return []

/-- an assignment, or an expression that chooses -/
def assign (g : Grammar) : Parse Expr := do
  let a ← g.choice
  match ← assignment? with
  | some (op, r) =>
    modify fun s => { s with previous := s.rest, rest := r }
    let b ← g.assign
    return .assign op a b
  | none => return a

/-- an expression that chooses one of two others -/
def choice (g : Grammar) : Parse Expr := do
  let e ← g.ranked 8
  if ← sign? ['?'] then
    let yes ← g.assign
    sign [':']
    let no ← g.assign
    return .choice e yes no
  else return e

def ranked (g : Grammar) (rank : Nat) : Parse Expr := do
  let a ← g.unary
  g.rankedRest rank a

/-- operators of a rank or a higher one after a first expression -/
def rankedRest (g : Grammar) (rank : Nat) (a : Expr) : Parse Expr := do
  match ← operator? with
  | none => return a
  | some (op, k, r) =>
    if k < rank then return a
    else
      modify fun s => { s with previous := s.rest, rest := r }
      let b ← g.ranked (if op = "**".toList then k else k + 1)
      let e ← match String.ofList op with
        | "&&" => pure (.both a b)
        | "||" => pure (.either a b)
        | "//" => pure (.defined_ a b)
        | "=~" => pure (against false a b)
        | "!~" => pure (against true a b)
        | ".." => counted a b
        | "..." => counted a b
        | _ => pure (.binary op a b)
      g.rankedRest rank e
where
  /-- a range with a number of its own -/
  counted (a b : Expr) : Parse Expr := do
  let k := (← get).ranges
  modify fun s => { s with ranges := k + 1 }
  return .range a b k

/-- an expression after signs -/
def unary (g : Grammar) : Parse Expr := do
  blanks
  match ← rest with
  | '!' :: '~' :: _ => unexpected
  | '!' :: _ =>
    sign ['!']
    return .unary ['!'] (← g.unary)
  | '~' :: _ =>
    sign ['~']
    return .unary ['~'] (← g.unary)
  | '\\' :: _ =>
    sign ['\\']
    return .reference (← g.unary)
  | '+' :: '+' :: _ =>
    sign "++"
    return .step true true (← g.unary)
  | '-' :: '-' :: _ =>
    sign "--"
    return .step true false (← g.unary)
  | '+' :: _ =>
    sign ['+']
    g.unary
  | '-' :: c :: r =>
    let after := skipBlanks (r.length + 1) false r
    if fileLetters.contains c ∧ !isVariableChar (r.headD ' ') ∧ !("=>".toList.isPrefixOf after)
    then
      setRest r
      if ← atStop then return .fileTest c topic else return .fileTest c (← g.ranked 16)
    else
      setRest (c :: r)
      let w := nameAt (c :: r)
      if w ≠ [] ∧ !(unaries ++ listers).contains w ∧ !(← get).known.contains w then
        setRest ((c :: r).drop w.length)
        return .text ('-' :: w)
      else
        let e ← g.unary
        let e ← if ← sign? "**" then pure (.binary "**" e (← g.ranked 21)) else pure e
        return .unary ['-'] e
  | _ => g.postfixed

/-- a term that may be changed after it is used -/
def postfixed (g : Grammar) : Parse Expr := do
  let e ← g.term
  let e ← g.arrows e
  match ← rest with
  | '+' :: '+' :: r =>
    setRest r
    return .step false true e
  | '-' :: '-' :: r =>
    setRest r
    return .step false false e
  | _ => return e

def arrows (g : Grammar) (e : Expr) : Parse Expr := do
  let s ← get
  let indexed : Bool := match e with
    | .item _ _ => true
    | .entry _ _ => true
    | .callBehind _ _ => true
    | _ => false
  match s.rest, indexed with
  | '[' :: _, true => g.arrows (.item (.behind .array e) (← g.index))
  | '\x7b' :: _, true => g.arrows (.entry (.behind .hash e) (← g.key))
  | '(' :: _, true => g.arrows (.callBehind e (← g.bracketed))
  | _, _ =>
    blanks
    match ← rest with
    | '-' :: '>' :: r =>
      let r := skipBlanks (r.length + 1) false r
      match r with
      | '[' :: _ =>
        setRest r
        g.arrows (.item (.behind .array e) (← g.index))
      | '\x7b' :: _ =>
        setRest r
        g.arrows (.entry (.behind .hash e) (← g.key))
      | '(' :: _ =>
        setRest r
        g.arrows (.callBehind e (← g.bracketed))
      | '@' :: '*' :: r =>
        setRest r
        g.arrows (.behind .array e)
      | '%' :: '*' :: r =>
        setRest r
        g.arrows (.behind .hash e)
      | '$' :: '*' :: r =>
        setRest r
        g.arrows (.behind .scalar e)
      | '$' :: '#' :: '*' :: r =>
        setRest r
        g.arrows (.lastIndex (.behind .array e))
      | '$' :: r =>
        setRest r
        match ← g.target with
        | .inl x =>
          let args ← if (← rest).head? = some '(' then g.bracketed else pure []
          g.arrows (.callBehind (.variable (.scalar, x)) (e :: args))
        | .inr _ => unexpected
      | r =>
        let w := nameAt r
        if w = [] then unexpected
        else
          setRest (r.drop w.length)
          let args ← if (← rest).head? = some '(' then g.bracketed else pure []
          g.arrows (.method e w args)
    | _ =>
      modify fun s' => { s' with rest := s.rest }
      return e

/-- expressions between brackets, which may be none -/
def bracketed (g : Grammar) : Parse (List Expr) := do
  sign ['(']
  if ← sign? [')'] then return []
  else
    let e ← g.expr
    sign [')']
    return listed e

def block (g : Grammar) : Parse (List Stmt) := do
  sign ['\x7b']
  let ss ← enclosed (g.stmts)
  sign ['\x7d']
  return ss

/-- the arguments of a function that takes a list, in brackets or without -/
def arguments (g : Grammar) : Parse (List Expr) := do
  if (← peek) = '(' then g.bracketed
  else if ← atStop then return []
  else return listed (← g.comma)

/-- the argument of a function that takes one, in brackets or without -/
def argument (g : Grammar) : Parse (List Expr) := do
  let c ← peek
  if c = '(' then g.bracketed
  else if !(← atTerm) then return []
  else return [← g.ranked 16]

def term (g : Grammar) : Parse Expr := do
  blanks
  match ← rest with
  | [] => unexpected
  | c :: r =>
    if c.isDigit ∨ (c = '.' ∧ (r.headD ' ').isDigit) then
      let (e, r) := numberAt (c :: r)
      modify fun s => { s with previous := s.rest }
      setRest r
      return e
    else if isVariableStart c then g.named
    else
      match c with
      | '$' =>
        modify fun s => { s with previous := s.rest }
        g.variable_
      | '@' =>
        modify fun s => { s with previous := s.rest }
        g.variable_
      | '%' => g.variable_
      | '&' =>
        setRest r
        match ← g.target with
        | .inl x =>
          if (← peek) = '(' then return .call x (← g.bracketed) false
          else return .call x [] true
        | .inr e =>
          if (← peek) = '(' then return .callBehind e (← g.bracketed)
          else return .callBehind e [.variable (.array, ['_'])]
      | '"' => do
        let (_, t) ← delimited
        g.quoted false t
      | '\x27' => do
        let (q, t) ← delimited
        return .text (plainText q t)
      | '\x60' => do
        let (_, t) ← delimited
        return .use "readpipe" [← g.quoted false t]
      | '/' => do
        let (_, t) ← delimitedAs "Search pattern"
        let k := flagsOf (← letters)
        return .match_ none false (← g.quoted true t) k
      | '[' => do
        sign ['[']
        if ← sign? [']'] then return .newArray []
        else
          let e ← g.expr
          sign [']']
          return .newArray (listed e)
      | '\x7b' => do
        sign ['\x7b']
        if ← sign? ['\x7d'] then return .newHash []
        else
          let e ← g.expr
          sign ['\x7d']
          return .newHash (listed e)
      | '(' => do
        let es ← g.bracketed
        if (← rest).head? = some '[' then return .listItems (.list es) (← g.index)
        else return .list es
      | '<' => g.angled
      | '*' =>
        setRest r
        match ← g.target with
        | .inl x => return .use "handle" [.text x]
        | .inr e => return .use "handle" [e]
      | _ => unexpected

/-- what begins with an angle: a document, or a line that is read -/
def angled (g : Grammar) : Parse Expr := do
  match ← rest with
  | '<' :: '<' :: '~' :: r => g.heredoc true r
  | '<' :: '<' :: '>' :: '>' :: r =>
    setRest r
    return .readLine (.word "ARGV")
  | '<' :: '<' :: r => g.heredoc false r
  | '<' :: '$' :: r =>
    let w := r.takeWhile isVariableChar
    match r.drop w.length with
    | '>' :: r =>
      setRest r
      used (.scalar, w)
      return .readLine (.variable (.scalar, w))
    | _ => unexpected
  | '<' :: r =>
    let w := r.takeWhile (· != '>')
    setRest (r.drop (w.length + 1))
    if w = [] then return .readLine (.word "ARGV")
    else if w.all isVariableChar then return .readLine (.word w)
    else return .use "glob" [← g.quoted false w]
  | _ => unexpected

def heredoc (g : Grammar) (indented : Bool) (t : Text) : Parse Expr := do
  match t with
  | c :: r =>
    if c = '"' ∨ c = '\x27' then
      let w := r.takeWhile (· != c)
      setRest (r.drop (w.length + 1))
      let t ← document w indented
      if c = '"' then g.quoted false t else return .text t
    else
      let w := t.takeWhile isVariableChar
      if w = [] then unexpected
      else
        setRest (t.drop w.length)
        g.quoted false (← document w indented)
  | [] => unexpected

def declared (g : Grammar) : Parse (List Variable) := do
  blanks
  match ← rest with
  | c :: r =>
    let kind : Option Sigil := match c with
      | '$' => some .scalar
      | '@' => some .array
      | '%' => some .hash
      | _ => none
    match kind with
    | some k =>
      let w := nameAt r
      setRest (r.drop w.length)
      if ← sign? [','] then return (k, w) :: (← g.declared) else return [(k, w)]
    | none =>
      if ← word? "undef" then
        if ← sign? [','] then return (.scalar, []) :: (← g.declared) else return [(.scalar, [])]
      else return []
  | [] => return []

def oneDeclared : Parse (List Variable) := do
  blanks
  match ← rest with
  | c :: r =>
    let w := nameAt r
    if w = [] then unexpected
    else
      setRest (r.drop w.length)
      match c with
      | '$' => return [(.scalar, w)]
      | '@' => return [(.array, w)]
      | '%' => return [(.hash, w)]
      | _ => unexpected
  | [] => unexpected

def declaration (g : Grammar) (own : Bool) : Parse Expr := do
  let list ← sign? ['(']
  let xs ← if list then g.declared else oneDeclared
  if list then sign [')']
  for x in xs do declare x
  return if own then .my xs list else .our xs list

def named (g : Grammar) : Parse Expr := do
  let w ← nextWord
  let after := (← rest).drop w.length
  let ahead := skipBlanks (after.length + 1) false after
  if "=>".toList.isPrefixOf ahead then
    setRest after
    return .text w
  else
    let l ← line
    modify fun s => { s with previous := s.rest }
    let quote := fun (p : Parse Expr) => do
      match ahead.head? with
      | some ',' => unexpected
      | _ =>
        setRest (if after.head? = some '#' then after else ahead)
        p
    setRest after
    match String.ofList w with
    | "my" => g.declaration true
    | "state" => g.declaration true
    | "our" => g.declaration false
    | "local" => return .local_ (← g.ranked 19)
    | "q" => quote do
      let (c, t) ← delimited
      return .text (plainText c t)
    | "qq" => quote do
      let (_, t) ← delimited
      g.quoted false t
    | "qw" => quote do
      let (_, t) ← delimited
      let words := (t.splitBy fun a b => isSpace a == isSpace b).filter fun w => !w.all isSpace
      let e : Expr := .list (words.map .text)
      if (← rest).head? = some '[' then return .listItems e (← g.index) else return e
    | "qx" => quote do
      let (_, t) ← delimited
      return .use "readpipe" [← g.quoted false t]
    | "qr" => quote do
      let (c, t) ← delimited
      let k := notationOf (← letters)
      return .pattern (← if c = '\x27' then pure (.text t) else g.quoted true t) k
    | "m" => quote do
      let (c, t) ← delimitedAs "Search pattern"
      let k := flagsOf (← letters)
      return .match_ none false (← if c = '\x27' then pure (.text t) else g.quoted true t) k
    | "s" => quote do
      let (_, t, d, u) ← delimitedTwice "Substitution pattern" "Substitution replacement"
      let k := flagsOf (← letters)
      let p ← g.quoted true t
      let new ←
        if k.evaluated then g.inner u
        else if d = '\x27' then pure (.text u) else g.quoted false u
      return .substitute none p new k
    | "tr" => quote (exchange)
    | "y" => quote (exchange)
    | "sub" =>
      let ss ← g.block
      return .newSub ss
    | "do" =>
      if ahead.head? = some '\x7b' then return .block (← g.block)
      else return .use "do" [← g.ranked 16]
    | "eval" =>
      if ahead.head? = some '\x7b' then return .attempt (← g.block)
      else
        let args ← g.argument
        return .use "eval" (if args.isEmpty then [topic] else args)
    | "__END__" => unexpected
    | "print" => g.printing w
    | "say" => if (← get).speaks then g.printing w else unsaid w
    | "printf" => g.printing w
    | "return" =>
      if ← atStop then return .back none else return .back (some (← g.comma))
    | "next" => jump w
    | "last" => jump w
    | "redo" => jump w
    | "sort" => g.blockCall w
    | "map" => g.blockCall w
    | "grep" => g.blockCall w
    | "first" => if (← get).known.contains w then g.blockCall w else g.calling w
    | "any" => if (← get).known.contains w then g.blockCall w else g.calling w
    | "all" => if (← get).known.contains w then g.blockCall w else g.calling w
    | "none" => if (← get).known.contains w then g.blockCall w else g.calling w
    | "reduce" => if (← get).known.contains w then g.blockCall w else g.calling w
    | "__LINE__" => return .whole l
    | "__FILE__" => return .text (← get).file
    | "__PACKAGE__" => return .text "main"
    | "STDIN" => return .word w
    | "STDOUT" => return .word w
    | "STDERR" => return .word w
    | _ =>
      if (← get).known.contains w then g.calling w
      else if nullaries.contains w then
        if ahead.head? = some '(' then discard (g.bracketed)
        return .use w []
      else if unaries.contains w then return .use w (← g.argument)
      else if listers.contains w then return .use w (← g.arguments)
      else g.calling w
where
  /-- a jump out of a loop or to its next round -/
  jump (w : Text) : Parse Expr := do
  if ← atStop then return .jump w [] else return .jump w (← word)

/-- the program in a replacement that is evaluated -/
def inner (g : Grammar) (t : Text) : Parse Expr := do
  let s ← get
  let l ← line
  set { s with rest := t, fixedLine := some l }
  let ss ← g.stmts
  modify fun s' => { s' with rest := s.rest, fixedLine := s.fixedLine }
  match ss with
  | [.expr _ e] => return e
  | ss => return .block ss

/-- a call of a function of the program, or a bare word -/
def calling (g : Grammar) (w : Text) : Parse Expr := do
  let known := (← get).known.contains w
  match ← peek with
  | '(' => return .call w (← g.bracketed) false
  | '-' =>
    if ((← rest).drop 1).head? = some '>' then return .word w
    else if known ∧ (← atTerm) then return .call w (listed (← g.comma)) false
    else return if known then .call w [] false else .word w
  | '\x7b' =>
    if !known then return .word w
    else if beginsHash ((← rest).drop 1) then return .call w (listed (← g.comma)) false
    else
      let ss ← g.block
      discard (sign? [','])
      let more ← if ← atStop then pure [] else do pure (listed (← g.comma))
      return .call w (.newSub ss :: more) false
  | _ =>
    if known then
      if ← atTerm then return .call w (listed (← g.comma)) false else return .call w [] false
    else
      let next ← nextWord
      if next ≠ [] ∧ !stops.contains next ∧ isVariableStart (next.headD ' ')
          ∧ !("=>".toList.isPrefixOf (skipBlanks 100 false ((← rest).drop next.length)))
          ∧ !w.all (fun c => c.isUpper || c == '_') then
        setRest ((← rest).drop next.length)
        let args ← if (← peek) = '(' then g.bracketed else pure []
        return .method (.word next) w args
      else return .word w

/-- a function that takes a block or an expression and a list -/
def blockCall (g : Grammar) (w : Text) : Parse Expr := do
  let inBrackets ← sign? ['(']
  let close := fun (e : Expr) => do
    if inBrackets then sign [')']
    return e
  let list := do
    discard (sign? [','])
    if ← atStop then return [] else return listed (← g.comma)
  let s ← get
  if (← peek) = '\x7b' then
    let attempt := (do
      let ss ← g.block
      if (← peek) = ',' then unexpected
      else return ss : Parse (List Stmt)).run s
    match attempt with
    | .ok (ss, s) =>
      set s
      close (.blockUse w ss (← list))
    | .error e =>
      if w = "map".toList then
        set s
        let l ← line
        let e ← g.assign
        close (.blockUse w [.expr l e] (← list))
      else throw e
  else if w = "sort".toList then
    match ← rest with
    | '$' :: r =>
      let x := r.takeWhile isVariableChar
      let after := skipBlanks 1000 false (r.drop x.length)
      if x ≠ [] ∧ (after.head? = some '@' ∨ isVariableStart (after.headD ' ')) then
        setRest (r.drop x.length)
        let l ← line
        close (.blockUse w [.expr l (.callBehind (.variable (.scalar, x)) [])] (← list))
      else close (.blockUse w [] (← list))
    | t =>
      let x := nameAt t
      let after := skipBlanks 1000 false (t.drop x.length)
      if x ≠ [] ∧ (after.head? = some '@' ∨ after.head? = some '(' ∧ (← get).known.contains x
          ∧ (t.drop x.length).head? ≠ some '(' ∨ (isVariableStart (after.headD ' ')
          ∧ (← get).known.contains x)) ∧ !(unaries ++ listers).contains x
          ∧ x ≠ "map".toList ∧ x ≠ "grep".toList then
        setRest (t.drop x.length)
        let l ← line
        close (.blockUse w [.expr l (.call x [] false)] (← list))
      else close (.blockUse w [] (← list))
  else
    let l ← line
    let e ← g.assign
    close (.blockUse w [.expr l e] (← list))

def printing (g : Grammar) (w : Text) : Parse Expr := do
  let s ← get
  let inBrackets ← sign? ['(']
  let handle ← g.handle?
  let args ←
    if inBrackets then do
      if ← sign? [')'] then pure []
      else do
        let e ← g.expr
        sign [')']
        pure (listed e)
    else if ← atStop then pure []
    else do pure (listed (← g.comma))
  let _ := s
  return .print w handle args

/-- the handle to which something is written, if it is named -/
def handle? (g : Grammar) : Parse (Option Expr) := do
  blanks
  match ← rest with
  | '\x7b' :: _ =>
    let ss ← g.block
    return some (.block ss)
  | '$' :: r =>
    let x := r.takeWhile isVariableChar
    let after := r.drop x.length
    let ahead := after.dropWhile isBlank
    let c := ahead.headD ' '
    let w := nameAt ahead
    let begins := c = '"' ∨ c = '$' ∨ c = '@' ∨ c = '\x27' ∨ c = '\\'
      ∨ (w ≠ [] ∧ !stops.contains w ∧ w ≠ ['x']) ∨ (c.isDigit)
      ∨ "<<\"".toList.isPrefixOf ahead ∨ "<<E".toList.isPrefixOf ahead
    if x ≠ [] ∧ after ≠ ahead ∧ begins then
      setRest ahead
      used (.scalar, x)
      return some (.variable (.scalar, x))
    else return none
  | t =>
    let w := nameAt t
    let after := skipBlanks (t.length + 1) false (t.drop w.length)
    let c := after.headD ';'
    let called := (t.drop w.length).head? = some '('
    if w ≠ [] ∧ w.all (fun c => c.isUpper || c == '_' || c.isDigit) ∧ !called ∧ c ≠ ','
        ∧ !("=>".toList.isPrefixOf after) ∧ !("->".toList.isPrefixOf after)
        ∧ c ≠ '.' ∧ !w.all (· == '_')
        ∧ !(← get).known.contains w
        ∧ !("__".toList.isPrefixOf w) then
      setRest (t.drop w.length)
      return some (.word w)
    else return none

/-- statements up to a closing brace or the end -/
def stmts (g : Grammar) : Parse (List Stmt) := do
  let c ← peek
  if c = '\x00' ∨ c = '\x7d' then return []
  else if ← sign? [';'] then g.stmts
  else
    let w ← nextWord
    if w = "__END__".toList ∨ w = "__DATA__".toList then
      let t := (← rest).dropWhile (· != '\n')
      modify fun s => { s with rest := [], data := some (t.drop 1) }
      return []
    else
      let ss ← g.stmt
      return ss ++ (← g.stmts)

def condition (g : Grammar) : Parse Expr := do
  sign ['(']
  let e ← g.expr
  sign [')']
  return e

/-- what is done where a condition does not hold -/
def otherwise_ (g : Grammar) : Parse (List Stmt) := do
  let l ← line
  if ← word? "elsif" then
    let e ← g.condition
    let yes ← g.block
    return [.test l e yes (← g.otherwise_)]
  else if ← word? "else" then g.block
  else return []

def stmt (g : Grammar) : Parse (List Stmt) := do
  blanks
  let l ← line
  let w ← nextWord
  let after := skipBlanks ((← rest).length + 1) false ((← rest).drop w.length)
  let labelled := w ≠ [] && after.head? = some ':' && (after.drop 1).head? ≠ some ':'
    && (w.all (fun c => c.isUpper || c == '_' || c.isDigit) || !stops.contains w)
  if labelled then
    setRest (after.drop 1)
    blanks
    g.compound l w (← nextWord)
  else if (← peek) = '\x7b' then
    if beginsHash ((← rest).drop 1) then g.simple l else return [.bare l [] (← g.block)]
  else g.compound l [] w

/-- a statement that begins with a word, perhaps after a label -/
def compound (g : Grammar) (l : Nat) (label : Text) (w : Text) : Parse (List Stmt) := do
  let after := skipBlanks ((← rest).length + 1) false ((← rest).drop w.length)
  let pass : Parse Unit := modify fun s =>
    { s with previous := s.rest, rest := s.rest.drop w.length }
  if "=>".toList.isPrefixOf after then g.simple l
  else
    match String.ofList w with
    | "if" =>
      pass
      enclosed do
        let e ← g.condition
        let yes ← g.block
        return [.test l e yes (← g.otherwise_)]
    | "unless" =>
      pass
      enclosed do
        let e ← g.condition
        let yes ← g.block
        return [.test l (.unary ['!'] e) yes (← g.otherwise_)]
    | "while" =>
      pass
      enclosed do
        sign ['(']
        let e ← if (← peek) = ')' then pure none else pure (some (loopTest (← g.expr)))
        sign [')']
        let body ← g.block
        let continued ← if ← word? "continue" then g.block else pure []
        return [.loop l label true false e body continued]
    | "until" =>
      pass
      enclosed do
        let e ← g.condition
        let body ← g.block
        return [.loop l label false false (some e) body []]
    | "for" =>
      pass
      enclosed (g.forLoop l label)
    | "foreach" =>
      pass
      enclosed (g.forLoop l label)
    | "sub" =>
      if isVariableStart (after.headD ' ') then
        pass
        let name ← word
        if (← peek) = '(' then discard delimited
        let body ← g.block
        return [.define name body]
      else g.simple l
    | "package" =>
      pass
      let name ← word
      if (← peek) = '\x7b' then
        let ss ← g.block
        return (.package name :: ss) ++ [.package "main"]
      else
        ended
        return [.package name]
    | "BEGIN" =>
      if after.head? = some '\x7b' then
        pass
        return [.bare l w (← g.block)]
      else g.simple l
    | "END" =>
      if after.head? = some '\x7b' then
        pass
        return [.final (← g.block)]
      else g.simple l
    | "use" =>
      pass
      g.requested l
    | "no" =>
      pass
      let m ← word
      if m = "strict".toList then modify fun s => { s with strict := false }
      modify fun s => { s with rest := s.rest.dropWhile fun c => c != ';' && c != '\x7d' }
      ended
      return []
    | "" =>
      if (← peek) = '\x7b' then return [.bare l label (← g.block)] else g.simple l
    | _ => g.simple l

/-- a loop over a list, or one with three expressions -/
def forLoop (g : Grammar) (l : Nat) (label : Text) : Parse (List Stmt) := do
  let own ← word? "my"
  let own := (← word? "our") || own
  blanks
  match ← rest with
  | '$' :: r =>
    let x := nameAt r
    setRest (r.drop x.length)
    if own then declare (.scalar, x) else used (.scalar, x)
    let es ← g.bracketed
    let body ← g.block
    return [.each l label (some (own, x)) (.list es) body]
  | _ =>
    sign ['(']
    let first ← if (← peek) = ';' then pure none else
      if (← peek) = ')' then pure (some (.list [])) else pure (some (← g.expr))
    if ← sign? [';'] then
      let e ← if (← peek) = ';' then pure none else pure (some (loopTest (← g.expr)))
      sign [';']
      let next ← if (← peek) = ')' then pure none else pure (some (← g.expr))
      sign [')']
      let body ← g.block
      return [.steps l label first e next body]
    else
      sign [')']
      let body ← g.block
      return [.each l label none (first.getD (.list [])) body]

def requested (g : Grammar) (l : Nat) : Parse (List Stmt) := do
  let c ← peek
  if c.isDigit ∨ (c = 'v' ∧ ((← rest).drop 1 |>.headD ' ').isDigit) then
    modify fun s => { s with
      rest := s.rest.dropWhile fun c => c != ';' && c != '\x7d', speaks := true, strict := true }
    ended
    return []
  else
    let m ← word
    let args ← if ← atStop then pure [] else do pure (listed (← g.comma))
    ended
    let names := args.flatMap fun
      | .text t => [t]
      | .list es => es.filterMap fun
        | .text t => some t
        | _ => none
      | _ => []
    match String.ofList m with
    | "strict" =>
      modify fun s => { s with strict := true }
      return []
    | "feature" =>
      modify fun s => { s with speaks := true }
      return []
    | "constant" =>
      let es := match args with
        | [.newHash es] => es
        | es => es
      let define := fun (x : Text) (e : List Expr) => Stmt.define x [.expr l (.list e)]
      match args, es with
      | [.newHash _], es =>
        let rec pairs : List Expr → List (Text × Expr)
          | .text x :: e :: es => (x, e) :: pairs es
          | _ => []
        modify fun s => { s with known := (pairs es).map Prod.fst ++ s.known }
        return (pairs es).map fun p => define p.1 [p.2]
      | _, .text x :: es =>
        modify fun s => { s with known := x :: s.known }
        return [define x es]
      | _, _ => return []
    | "vars" =>
      for x in names do
        match x with
        | '$' :: x => declare (.scalar, x)
        | '@' :: x => declare (.array, x)
        | '%' :: x => declare (.hash, x)
        | _ => pure ()
      return []
    | _ =>
      if modules.contains m then
        let given := if m = "POSIX".toList ∧ names = [] then
            (["floor", "ceil", "fmod", "strftime", "pow"] : List String).map String.toList
          else names
        modify fun s => { s with known := given ++ s.known }
        return []
      else
        let place ← here
        fail (notFound (modulePath m) (moduleHint m) ++ place ++ ".\nBEGIN failed--compilation aborted"
          ++ place ++ ".\n")

/-- an expression with what may follow it in a statement -/
def simple (g : Grammar) (l : Nat) : Parse (List Stmt) := do
  let e ← g.expr
  let s ← g.modified l e
  ended
  return [s]

/-- a statement that is done under a condition or in a loop that follows it -/
def modified (g : Grammar) (l : Nat) (e : Expr) : Parse Stmt := do
  let late : Bool := match e with
    | .block _ => true
    | _ => false
  if ← word? "if" then return .test l (← g.expr) [.expr l e] []
  else if ← word? "unless" then return .test l (.unary ['!'] (← g.expr)) [.expr l e] []
  else if ← word? "while" then
    return .loop l [] true late (some (loopTest (← g.expr))) [.expr l e] []
  else if ← word? "until" then return .loop l [] false late (some (← g.expr)) [.expr l e] []
  else if (← word? "foreach") || (← word? "for") then
    return .each l [] none (← g.expr) [.expr l e]
  else return .expr l e

/-- the grammar of programs as far as some steps lead, after which nothing more is read -/
def grammar : Nat → Grammar
  | 0 =>
    { pieces := fun _ _ _ => unexpected
      embedded := fun _ _ => unexpected
      indices := fun _ _ => unexpected
      allPieces := fun _ _ => unexpected
      quoted := fun _ _ => unexpected
      target := unexpected
      variable_ := unexpected
      index := unexpected
      key := unexpected
      expr := unexpected
      exprRest := fun _ => unexpected
      lowAnd := unexpected
      lowAndRest := fun _ => unexpected
      lowNot := unexpected
      comma := unexpected
      commaRest := unexpected
      assign := unexpected
      choice := unexpected
      ranked := fun _ => unexpected
      rankedRest := fun _ _ => unexpected
      unary := unexpected
      postfixed := unexpected
      arrows := fun _ => unexpected
      bracketed := unexpected
      block := unexpected
      arguments := unexpected
      argument := unexpected
      term := unexpected
      angled := unexpected
      heredoc := fun _ _ => unexpected
      declared := unexpected
      declaration := fun _ => unexpected
      named := unexpected
      inner := fun _ => unexpected
      calling := fun _ => unexpected
      blockCall := fun _ => unexpected
      printing := fun _ => unexpected
      handle? := unexpected
      stmts := unexpected
      condition := unexpected
      otherwise_ := unexpected
      stmt := unexpected
      compound := fun _ _ _ => unexpected
      forLoop := fun _ _ => unexpected
      requested := fun _ => unexpected
      simple := fun _ => unexpected
      modified := fun _ _ => unexpected }
  | n + 1 =>
    { pieces := fun a b c s => pieces (grammar n) a b c s
      embedded := fun a b s => embedded (grammar n) a b s
      indices := fun a b s => indices (grammar n) a b s
      allPieces := fun a b s => allPieces (grammar n) a b s
      quoted := fun a b s => quoted (grammar n) a b s
      target := fun s => target (grammar n) s
      variable_ := fun s => variable_ (grammar n) s
      index := fun s => index (grammar n) s
      key := fun s => key (grammar n) s
      expr := fun s => expr (grammar n) s
      exprRest := fun a s => exprRest (grammar n) a s
      lowAnd := fun s => lowAnd (grammar n) s
      lowAndRest := fun a s => lowAndRest (grammar n) a s
      lowNot := fun s => lowNot (grammar n) s
      comma := fun s => comma (grammar n) s
      commaRest := fun s => commaRest (grammar n) s
      assign := fun s => assign (grammar n) s
      choice := fun s => choice (grammar n) s
      ranked := fun a s => ranked (grammar n) a s
      rankedRest := fun a b s => rankedRest (grammar n) a b s
      unary := fun s => unary (grammar n) s
      postfixed := fun s => postfixed (grammar n) s
      arrows := fun a s => arrows (grammar n) a s
      bracketed := fun s => bracketed (grammar n) s
      block := fun s => block (grammar n) s
      arguments := fun s => arguments (grammar n) s
      argument := fun s => argument (grammar n) s
      term := fun s => term (grammar n) s
      angled := fun s => angled (grammar n) s
      heredoc := fun a b s => heredoc (grammar n) a b s
      declared := fun s => declared (grammar n) s
      declaration := fun a s => declaration (grammar n) a s
      named := fun s => named (grammar n) s
      inner := fun a s => inner (grammar n) a s
      calling := fun a s => calling (grammar n) a s
      blockCall := fun a s => blockCall (grammar n) a s
      printing := fun a s => printing (grammar n) a s
      handle? := fun s => handle? (grammar n) s
      stmts := fun s => stmts (grammar n) s
      condition := fun s => condition (grammar n) s
      otherwise_ := fun s => otherwise_ (grammar n) s
      stmt := fun s => stmt (grammar n) s
      compound := fun a b c s => compound (grammar n) a b c s
      forLoop := fun a b s => forLoop (grammar n) a b s
      requested := fun a s => requested (grammar n) a s
      simple := fun a s => simple (grammar n) a s
      modified := fun a b s => modified (grammar n) a b s }

end Parse

/-- a whole program: what is done, the number of its ranges, the text after its end, the functions
that it knows by name, and whether references must be references -/
structure Program where
  body : List Stmt
  ranges : Nat
  data : Option Text
  known : List Text
  strict : Bool

/-- the names of the functions that a text defines -/
def definedNames : Nat → Text → List Text
  | 0, _ => []
  | n + 1, t =>
    match cutAt? "sub " t with
    | none => []
    | some (_, r) =>
      let r := r.dropWhile isBlank
      let w := Parse.nameAt r
      if w = [] then definedNames n r else w :: definedNames n (r.drop w.length)

def Program.of (file : Text) (speaks : Bool) (t : Text) : Except Text Program := do
  let start : Source :=
    ⟨t, t.count '\n', file, none, definedNames (t.length + 1) t, 0, false, speaks, [[]], none, [], t⟩
  let whole : Parse (List Stmt) := do
    let ss ← (Parse.grammar (100 * t.length + 1000)).stmts
    if (← Parse.peek) ≠ '\x00' then Parse.unexpected
    else
      let s ← get
      if s.notes = [] then return ss else Parse.fail (← Parse.aborted)
  let (ss, s) ← whole.run start
  .ok ⟨ss, s.ranges, s.data, s.known, s.strict⟩

end Perl
end Shell
end CoroBridge
