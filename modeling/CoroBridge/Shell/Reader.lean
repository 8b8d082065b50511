import CoroBridge.Shell.Syntax

/-!
# Command language: reading

How a script is read, one complete command after the other, so that what comes first is done
before a fault further on is seen.

* `Source`          what is left of a script, and the number of its line;
* `Reading`         a reader's step, which may end in a fault and the line of it;
* `parts`           the parts of a word, up to the end of the place where they stand;
* `spellOut`        another name of a command replaced by what it stands for;
* `token`           the next word or sign;
* `command`         the next command that is no list, and `commands` a list of them;
* `Source.next`     the next complete command of a script.
-/

namespace CoroBridge
namespace Shell

/-- what another name of a command stands for, while it is read: the name, the number of characters
that follow it, and whether the word after it may be such a name too -/
structure Expanded where
  name : Text
  after : Nat
  leads : Bool
  deriving DecidableEq, Repr

structure Source where
  rest : Text
  line : Nat
  owed : Nat
  ahead : Option Token
  aliases : List (Text × Text)
  expanded : List Expanded
  led : Bool

def Source.of (line : Nat) (t : Text) : Source := ⟨t, line, 0, none, [], [], false⟩

def Source.within (s : Source) (line : Nat) (t : Text) : Source :=
  { Source.of line t with aliases := s.aliases }

abbrev Reading := StateT Source (Except (SyntaxFault × Nat))

def stop {α : Type} (f : SyntaxFault) : Reading α := fun s => .error (f, s.line)

def unexpected {α : Type} (t : Token) (expected : Option Text) : Reading α :=
  stop (.unexpected t.shown expected)

def pass (t : Text) : Reading Unit := fun s =>
  let feeds := t.count '\n'
  let rest := s.rest.drop t.length
  let s :=
    if s.expanded = [] then s
    else
      let n := rest.length
      { s with
        expanded := s.expanded.filter fun e => e.after ≤ n
        led := s.led || s.expanded.any fun e => e.leads && n ≤ e.after && e.after < n + t.length }
  .ok ((), { s with
    rest := rest, line := s.line + feeds + (if feeds = 0 then 0 else s.owed)
    owed := if feeds = 0 then s.owed else 0 })

def putBack (t : Token) : Reading Unit := modify fun s => { s with ahead := some t }

def spellOut (wanted : Bool) (w : Word) : Reading Bool := do
  let s ← get
  let name := if s.aliases.isEmpty || !(wanted || s.led) then none else Word.plain? w
  match name.bind fun name => (s.aliases.lookup name).map fun t => (name, t) with
  | none =>
    if s.led then set { s with led := false }
    return false
  | some (name, t) =>
    if s.expanded.any (·.name == name) then return false
    else
      let leads := t.getLast?.any isBlank
      set { s with
        rest := t ++ s.rest, led := false
        expanded := ⟨name, s.rest.length, leads⟩ :: s.expanded }
      return true

def hiddenBreaks : Text → Text
  | '\\' :: '\n' :: r => '\\' :: '\n' :: hiddenBreaks r
  | _ => []

def upcoming : Reading Text := do
  pass (hiddenBreaks (← get).rest)
  return (← get).rest

/-! ## words -/

/-- where the parts of a word stand: outside quotes, between double quotes, in a text within the
script, in the braces of a parameter, or in an expression, inside some parentheses -/
inductive WordPlace where
  | bare
  | double
  | here
  | braces (quoted : Bool)
  | value (depth : Nat)
  deriving DecidableEq, Repr

/-- whether characters at a place are kept from further treatment -/
def WordPlace.quotes : WordPlace → Bool
  | bare => false
  | braces quoted => quoted
  | _ => true

def WordPlace.opens (p : WordPlace) : Bool := !p.quotes

def isEnd (c : Char) : Bool :=
  c == ' ' || c == '\t' || c == '\n' || c == ';' || c == '&' || c == '|' || c == '<' || c == '>'
    || c == '(' || c == ')'

/-- whether a backslash protects a character at a place -/
def WordPlace.protects (p : WordPlace) (c : Char) : Bool :=
  match p with
  | bare => true
  | braces false => true
  | braces true => c == '$' || c == '`' || c == '\\' || c == '"' || c == '\x7d'
  | here => c == '$' || c == '`' || c == '\\'
  | _ => c == '$' || c == '`' || c == '\\' || c == '"'

def isSpecial (c : Char) : Bool :=
  c == '@' || c == '*' || c == '#' || c == '?' || c == '-' || c == '$' || c == '!'

/-- the name of a parameter that a text begins with, as it is written between braces -/
def parameterName (t : Text) : Text :=
  match t with
  | [] => []
  | c :: _ =>
    if isVariableStart c then t.takeWhile isVariableChar
    else if c.isDigit then t.takeWhile Char.isDigit
    else if isSpecial c then [c]
    else []

/-- the name and the operation that a text between braces begins with, and their length -/
def operation (t : Text) : Text × Operation × Nat :=
  let lengthOf : Option Text :=
    match t with
    | '#' :: r =>
      let name := parameterName r
      if name ≠ [] ∧ (r.drop name.length).head? = some '\x7d' then some name else none
    | _ => none
  match lengthOf with
  | some name => (name, .length, name.length + 1)
  | none =>
    let name := parameterName t
    let n := name.length
    if name = [] then ([], .unknown, 0)
    else
      match t.drop n with
      | '\x7d' :: _ => (name, .plain, n)
      | ':' :: '-' :: _ => (name, .instead true, n + 2)
      | ':' :: '=' :: _ => (name, .store true, n + 2)
      | ':' :: '?' :: _ => (name, .demand true, n + 2)
      | ':' :: '+' :: _ => (name, .alternative true, n + 2)
      | '-' :: _ => (name, .instead false, n + 1)
      | '=' :: _ => (name, .store false, n + 1)
      | '?' :: _ => (name, .demand false, n + 1)
      | '+' :: _ => (name, .alternative false, n + 1)
      | '%' :: '%' :: _ => (name, .trim true true, n + 2)
      | '%' :: _ => (name, .trim true false, n + 1)
      | '#' :: '#' :: _ => (name, .trim false true, n + 2)
      | '#' :: _ => (name, .trim false false, n + 1)
      | _ => (name, .unknown, n)

def Operation.place (quoted : Bool) : Operation → WordPlace
  | trim .. => .braces false
  | _ => .braces quoted

/-- the text between backquotes, without the backslashes that protect something from them, and the
number of characters up to the closing one -/
def backquoted (quoted : Bool) : Text → Option (Text × Nat)
  | [] => none
  | '\\' :: '\n' :: r => (backquoted quoted r).map fun p => (p.1, p.2 + 2)
  | '\\' :: c :: r =>
    (backquoted quoted r).map fun p =>
      if c == '$' || c == '`' || c == '\\' || (quoted && c == '"') then (c :: p.1, p.2 + 2)
      else ('\\' :: c :: p.1, p.2 + 2)
  | c :: r =>
    if c == '`' then some ([], 1)
    else (backquoted quoted r).map fun p => (c :: p.1, p.2 + 1)

/-- the parts of a quoted stretch; the parameters of a script between quotes make no word of their
own where there are none -/
def stretched (w : Word) : Word :=
  match w with
  | [.param ['@'] .plain [] true] => w
  | _ => .stretch :: w

/-- the characters of a word as it is written, and whether some of them were quoted -/
def literal : Word → Text × Bool
  | [] => ([], false)
  | .char c kept :: w => (c :: (literal w).1, kept || (literal w).2)
  | .stretch :: w => ((literal w).1, true)
  | .param name _ _ _ :: w => ('$' :: name ++ (literal w).1, (literal w).2)
  | _ :: w => literal w

/-- the lines of a text within the script up to the one that ends it, and the text after that,
with the number of the lines; `tabs` in front of a line do not count -/
def hereLines (mark : Text) (tabs : Bool) : List Text → List Text × Nat
  | [] => ([], 0)
  | l :: ls =>
    let l := if tabs then l.dropWhile (· == '\t') else l
    if l = mark then ([], 1)
    else
      let (body, n) := hereLines mark tabs ls
      (l :: body, n + 1)

/-- a text within the script: it begins on the next line, which the reader then jumps over -/
def hereText (mark : Text) (tabs : Bool) : Reading Text := fun s =>
  let now := s.rest.takeWhile (· != '\n')
  match s.rest.drop now.length with
  | [] => .ok ([], s)
  | _ :: later =>
    let lines := later.splitOn '\n'
    let (body, n) := hereLines mark tabs lines
    let body := if n = lines.length ∧ body.getLast? = some [] then body.dropLast else body
    .ok (body.flatMap (· ++ ['\n']),
      { s with rest := now ++ '\n' :: List.intercalate ['\n'] (lines.drop n), owed := s.owed + n })

def Token.is (t : Token) (x : Text) : Bool :=
  match t with
  | .sign y => x == y
  | .keyword y => x == y
  | _ => false

def wordSigns : List Text := ["&&", "||", ";;", "&", "|", ";", "(", ")"].map String.toList

/-- the redirection that a text begins with, the descriptor that it moves unless another one is
named, whether tabs count, and its length -/
def direction? : Text → Option (Direction × Nat × Bool × Nat)
  | '>' :: '>' :: _ => some (.append, 1, false, 2)
  | '>' :: '&' :: _ => some (.same, 1, false, 2)
  | '>' :: '|' :: _ => some (.force, 1, false, 2)
  | '>' :: _ => some (.write, 1, false, 1)
  | '<' :: '<' :: '-' :: _ => some (.here, 0, true, 3)
  | '<' :: '<' :: _ => some (.here, 0, false, 2)
  | '<' :: '&' :: _ => some (.same, 0, false, 2)
  | '<' :: '>' :: _ => some (.both, 0, false, 2)
  | '<' :: _ => some (.read, 0, false, 1)
  | _ => none

/-- the name and the value of an assignment that a word is -/
def assignmentOf? : Text → Word → Option (Text × Word)
  | name, .char c false :: w =>
    if c = '=' ∧ isVariable name.reverse then some (name.reverse, w)
    else if isVariableChar c then assignmentOf? (c :: name) w
    else none
  | _, _ => none

def specialNames : List Text :=
  [".", ":", "break", "continue", "eval", "exec", "exit", "export", "local", "readonly", "return",
    "set", "shift", "times", "trap", "unset"].map String.toList

/-- two commands in order, of which there may be only the second -/
def Command.after (a : Option Command) (b : Command) : Command :=
  match a with
  | some a => .sequence a b
  | none => b

mutual

def parts : Nat → WordPlace → Reading Word
  | 0, _ => stop .openQuote
  | n + 1, p => do
    match ← upcoming with
    | [] =>
      match p with
      | .bare => pure []
      | .here => pure []
      | .double => stop .openQuote
      | .braces _ => stop .openBrace
      | .value _ => stop .openValue
    | '\\' :: c :: _ =>
      if p.protects c then
        pass ['\\', c]
        return .char c true :: (← parts n p)
      else
        pass ['\\']
        return .char '\\' true :: (← parts n p)
    | c :: r =>
      if p = .bare ∧ isEnd c then pure []
      else if p = .double ∧ c = '"' then
        pass [c]
        pure []
      else if p matches .braces _ ∧ c = '\x7d' then
        pass [c]
        pure []
      else if p.opens ∧ c = '\x27' then
        let inside := r.takeWhile (· != '\x27')
        if inside.length = r.length then
          pass (c :: inside)
          stop .openQuote
        else
          pass (c :: inside ++ [c])
          return .stretch :: inside.map (.char · true) ++ (← parts n p)
      else if p.opens ∧ c = '"' then
        pass [c]
        let inside ← parts n .double
        return stretched inside ++ (← parts n p)
      else if c = '"' ∧ p ≠ .here then
        pass [c]
        parts n p
      else if c = '`' then
        match backquoted p.quotes r with
        | none =>
          pass (c :: r)
          stop .openBackquote
        | some (t, k) =>
          pass (c :: r.take k)
          match (commands n true none).run ((← get).within 1 t) with
          | .error f => throw f
          | .ok (body, _) => return .output body p.quotes :: (← parts n p)
      else if c = '$' then
        pass [c]
        let part ← dollar n p.quotes
        return part :: (← parts n p)
      else
        match p with
        | .value depth =>
          if c = ')' ∧ depth = 0 then
            if r.head? = some ')' then
              pass [c, c]
              pure []
            else
              pass [c]
              return .char c true :: (← parts n p)
          else
            pass [c]
            let depth := if c = '(' then depth + 1 else if c = ')' then depth - 1 else depth
            return .char c true :: (← parts n (.value depth))
        | _ =>
          pass [c]
          return .char c p.quotes :: (← parts n p)

def dollar : Nat → Bool → Reading Part
  | 0, _ => stop .openQuote
  | n + 1, quoted => do
    match ← upcoming with
    | '(' :: '(' :: _ =>
      pass ['(', '(']
      return .value (← parts n (.value 0)) quoted
    | '(' :: _ =>
      pass ['(']
      let body ← commands n true none
      let t ← token n false
      if t.is ")" then return .output body quoted else unexpected t (doubleQuoted ")")
    | '\x7b' :: r =>
      pass ['\x7b']
      let (name, op, k) := operation r
      pass (r.take k)
      return .param name op (← parts n (op.place quoted)) quoted
    | c :: r =>
      if isVariableStart c then
        let name := c :: r.takeWhile isVariableChar
        pass name
        return .param name .plain [] quoted
      else if c.isDigit ∨ isSpecial c then
        pass [c]
        return .param [c] .plain [] quoted
      else return .char '$' quoted
    | [] => return .char '$' quoted

def token : Nat → Bool → Reading Token
  | 0, _ => stop .openQuote
  | n + 1, wanted => do
    let s ← get
    match s.ahead with
    | some t =>
      set { s with ahead := none }
      match t with
      | .word w =>
        match Word.plain? w with
        | some k => return if wanted ∧ k ∈ keywords then .keyword k else t
        | none => return t
      | _ => return t
    | none =>
      match ← upcoming with
      | [] => return .done
      | c :: r =>
        if c = ' ' ∨ c = '\t' then
          pass [c]
          token n wanted
        else if c = '#' then
          pass (c :: r.takeWhile (· != '\n'))
          token n wanted
        else if c = '\n' then
          pass [c]
          return .newline
        else
          match wordSigns.find? fun x => x.isPrefixOf (c :: r) with
          | some x =>
            pass x
            return .sign x
          | none =>
            match direction? (c :: r) with
            | some (d, usual, tabs, k) =>
              pass ((c :: r).take k)
              return .redirect usual d tabs
            | none =>
              match if c.isDigit then direction? r else none with
              | some (d, _, tabs, k) =>
                pass ((c :: r).take (k + 1))
                return .redirect (c.toNat - 48) d tabs
              | none =>
                let w ← parts n .bare
                if !(← spellOut wanted w) then putBack (.word w)
                token n wanted

/-- the next token, where a word may be another name of a command -/
def nameToken : Nat → Reading Token
  | 0 => stop .openQuote
  | n + 1 => do
    match ← token n false with
    | .word w => if ← spellOut true w then nameToken n else return .word w
    | t => return t

def laterToken : Nat → Bool → Reading Token
  | 0, _ => stop .openQuote
  | n + 1, wanted => do
    match ← token n wanted with
    | .newline => laterToken n wanted
    | t => return t

def nextWord : Nat → Reading Word
  | 0 => stop .openQuote
  | n + 1 => do
    match ← token n false with
    | .word w => return w
    | t => unexpected t none

def redirection : Nat → Nat → Direction → Bool → Reading Redirect
  | 0, _, _, _ => stop .openQuote
  | n + 1, descriptor, d, tabs => do
    let w ← nextWord n
    if d = .here then
      let (mark, quoted) := literal w
      let line := (← get).line
      let t ← hereText mark tabs
      if quoted then return .mk descriptor d (t.map (.char · true))
      else
        match (parts n .here).run ((← get).within (line + 1) t) with
        | .error f => throw f
        | .ok (w, _) => return .mk descriptor d w
    else return .mk descriptor d w

/-- the redirections that follow, and what comes before them -/
def redirections : Nat → Bool → List Redirect → Reading (List Redirect)
  | 0, _, _ => stop .openQuote
  | n + 1, wanted, rs => do
    match ← token n wanted with
    | .redirect k d tabs =>
      let r ← redirection n k d tabs
      redirections n wanted (rs ++ [r])
    | t =>
      putBack t
      return rs

def commands : Nat → Bool → Option Command → Reading (Option Command)
  | 0, _, _ => stop .openQuote
  | n + 1, mayBeEmpty, before => do
    let t ← laterToken n true
    putBack t
    if t matches .done then return before
    else if (mayBeEmpty || before.isSome) && t.ends then return before
    else
      let c ← alternatives n
      let t ← token n false
      if t.is "&" then commands n mayBeEmpty (some (.after before (.background c)))
      else if t.is ";" then commands n mayBeEmpty (some (.after before c))
      else
        putBack t
        if t matches .newline then commands n mayBeEmpty (some (.after before c))
        else return some (.after before c)

def someCommands : Nat → Reading (Option Command)
  | 0 => stop .openQuote
  | n + 1 => commands n false none

/-- the commands of a line; nothing where the script ends -/
def lineCommands : Nat → Option Command → Reading (Option (Option Command))
  | 0, _ => stop .openQuote
  | n + 1, before => do
    match ← token n true with
    | .newline => return some before
    | .done =>
      putBack .done
      return if before.isSome then some before else none
    | t =>
      putBack t
      let c ← alternatives n
      let t ← token n false
      if t.is "&" then lineCommands n (some (.after before (.background c)))
      else if t.is ";" then lineCommands n (some (.after before c))
      else
        match t with
        | .newline => return some (some (.after before c))
        | .done =>
          putBack t
          return some (some (.after before c))
        | _ => unexpected t none

def alternatives : Nat → Reading Command
  | 0 => stop .openQuote
  | n + 1 => do moreAlternatives n (← pipeline n)

def moreAlternatives : Nat → Command → Reading Command
  | 0, _ => stop .openQuote
  | n + 1, c => do
    let t ← token n false
    if t.is "&&" ∨ t.is "||" then
      putBack (← laterToken n true)
      let d ← pipeline n
      moreAlternatives n (.joined (t.is "&&") c d)
    else
      putBack t
      return c

/-- commands between pipes, or one command; an exclamation mark turns the status around -/
def pipeline : Nat → Reading Command
  | 0 => stop .openQuote
  | n + 1 => do
    let t ← token n true
    let negated := t.is "!"
    if !negated then putBack t
    let c ← command n
    let cs ← morePipes n [c]
    match negated, cs with
    | false, [c] => return c
    | _, _ => return .pipeline negated cs

/-- the commands of a pipeline after the first ones -/
def morePipes : Nat → List Command → Reading (List Command)
  | 0, _ => stop .openQuote
  | n + 1, cs => do
    let t ← token n false
    if t.is "|" then
      putBack (← laterToken n true)
      let c ← command n
      morePipes n (cs ++ [c])
    else
      putBack t
      return cs

def require : Nat → Text → Reading Unit
  | 0, _ => stop .openQuote
  | n + 1, x => do
    let t ← token n true
    if t.is x then pure () else unexpected t (doubleQuoted x)

def command : Nat → Reading Command
  | 0 => stop .openQuote
  | n + 1 => do
    let t ← token n true
    let line := (← get).line
    match t with
    | .keyword k =>
      if k = "if".toList then
        let c ← condition n
        closed n line c
      else if k = "while".toList ∨ k = "until".toList then
        let test ← someCommands n
        require n "do"
        let body ← someCommands n
        require n "done"
        match test, body with
        | some test, some body => closed n line (.loop (k == "while".toList) test body)
        | _, _ => unexpected .done none
      else if k = "for".toList then
        let c ← eachWord n
        closed n line c
      else if k = "case".toList then
        let c ← choice n
        closed n line c
      else if k = ['\x7b'] then
        let body ← someCommands n
        require n "\x7d"
        match body with
        | some body => closed n line body
        | none => unexpected .done none
      else unexpected t none
    | .sign x =>
      if x = ['('] then
        let body ← someCommands n
        require n ")"
        match body with
        | some body => closed n line (.nested body)
        | none => unexpected .done none
      else unexpected t none
    | .word _ =>
      putBack t
      simple n line [] [] []
    | .redirect .. =>
      putBack t
      simple n line [] [] []
    | _ => unexpected t none

/-- a command of other commands with the redirections that follow it -/
def closed : Nat → Nat → Command → Reading Command
  | 0, _, _ => stop .openQuote
  | n + 1, line, c => do
    let rs ← redirections n true []
    return if rs.isEmpty then c else .redirected line c rs

def condition : Nat → Reading Command
  | 0 => stop .openQuote
  | n + 1 => do
    let test ← someCommands n
    require n "then"
    let yes ← someCommands n
    match test, yes with
    | some test, some yes =>
      let t ← token n true
      if t.is "elif" then
        return .conditional test yes (some (← condition n))
      else if t.is "else" then
        let no ← someCommands n
        require n "fi"
        return .conditional test yes no
      else if t.is "fi" then return .conditional test yes none
      else unexpected t (doubleQuoted "fi")
    | _, _ => unexpected .done none

def listed : Nat → List Word → Reading (List Word)
  | 0, _ => stop .openQuote
  | n + 1, ws => do
    let t ← token n false
    match t with
    | .word w => listed n (ws ++ [w])
    | .newline => return ws
    | _ => if t.is ";" then return ws else unexpected t none

def eachWord : Nat → Reading Command
  | 0 => stop .openQuote
  | n + 1 => do
    let t ← token n false
    let line := (← get).line
    let name := match t with
      | .word w => (Word.plain? w).getD []
      | _ => []
    if !isVariable name then stop .loopVariable
    else
      let t ← laterToken n true
      let words ←
        if t.is "in" then
          let ws ← listed n []
          pure (some ws)
        else
          if !t.is ";" then putBack t
          pure none
      let t ← laterToken n true
      if t.is "do" then
        let body ← someCommands n
        require n "done"
        match body with
        | some body => return .each line name words body
        | none => unexpected .done none
      else unexpected t (doubleQuoted "do")

/-- the patterns of a case up to their closing parenthesis; `t` is the first token -/
def patterns : Nat → Token → List Word → Reading (List Word)
  | 0, _, _ => stop .openQuote
  | n + 1, t, ws => do
    let w ← match t with
      | .word w => pure w
      | .keyword k => pure (k.map (.char · false))
      | _ => unexpected t (doubleQuoted ")")
    let t ← token n false
    if t.is "|" then
      let t ← token n false
      patterns n t (ws ++ [w])
    else if t.is ")" then return ws ++ [w]
    else unexpected t (doubleQuoted ")")

/-- the cases of a choice up to its last word -/
def cases : Nat → List Case → Reading (List Case)
  | 0, _ => stop .openQuote
  | n + 1, before => do
    let t ← laterToken n true
    if t.is "esac" then return before
    else
      let t ← if t.is "(" then token n false else pure t
      let ws ← patterns n t []
      let body ← commands n true none
      let before := before ++ [.mk ws body]
      let t ← laterToken n true
      if t.is "esac" then return before
      else if t.is ";;" then cases n before
      else unexpected t (doubleQuoted ";;")

def choice : Nat → Reading Command
  | 0 => stop .openQuote
  | n + 1 => do
    let t ← token n false
    let line := (← get).line
    match t with
    | .word subject =>
      let t ← laterToken n true
      if t.is "in" then return .choice line subject (← cases n [])
      else unexpected t (doubleQuoted "in")
    | _ => unexpected t (some "word")

/-- a simple command, or the definition of a function -/
def simple : Nat → Nat → List (Text × Word) → List Word → List Redirect → Reading Command
  | 0, _, _, _, _ => stop .openQuote
  | n + 1, line, assigns, words, rs => do
    let t ← if words.isEmpty ∧ !assigns.isEmpty then nameToken n else token n false
    match t with
    | .word w =>
      match if words.isEmpty then assignmentOf? [] w else none with
      | some a => simple n line (assigns ++ [a]) words rs
      | none => simple n line assigns (words ++ [w]) rs
    | .redirect k d tabs =>
      let r ← redirection n k d tabs
      simple n line assigns words (rs ++ [r])
    | _ =>
      match words with
      | [w] =>
        if t.is "(" ∧ assigns.isEmpty ∧ rs.isEmpty then
          let t ← token n false
          if !t.is ")" then unexpected t (doubleQuoted ")")
          else
            let name := (Word.plain? w).getD []
            if !isVariable name ∨ name ∈ specialNames then stop .functionName
            else
              putBack (← laterToken n true)
              return .define name (← command n)
        else
          putBack t
          return .simple line assigns words rs
      | _ =>
        putBack t
        return .simple line assigns words rs

end

def Source.next (s : Source) (aliases : List (Text × Text)) :
    Except (SyntaxFault × Nat) (Option (Option Command) × Source) :=
  let longer := (aliases.map fun a => a.2.length + 1).foldl (· + ·) 0
  (lineCommands ((16 * s.rest.length + 64) * (longer + 1)) none).run
    { s with aliases := aliases }

end Shell
end CoroBridge
