import CoroBridge.Shell.Program.Awk.Notation

/-!
# Command language: the language of `awk`, words

How a program for `awk` falls into words.

* `Awk.Token`       words, numbers, texts, regular expressions and signs;
* `Awk.Lexeme`      a token with its line and the brackets that are open before it;
* `Awk.lexemes`     the tokens of a text.
-/

namespace CoroBridge
namespace Shell
namespace Awk

inductive Token where
  | number (x : Float) (t : Text)
  | text (t : Text)
  | regex (t : Text)
  | name (t : Text) (called : Bool)
  | keyword (t : Text)
  | builtin (t : Text)
  | sign (t : Text)
  | line
  | closing
  | finish
  | stray (c : Char)
  | foreign (c : Char)
  | fault (what : Text)

structure Lexeme where
  token : Token
  line : Nat
  brackets : Nat
  braces : Nat

def keywords : List Text :=
  (["BEGIN", "END", "function", "delete", "print", "printf", "getline", "if", "else", "while",
    "for", "do", "in", "break", "continue", "exit", "return", "next", "nextfile"] :
    List String).map String.toList

def builtins : List Text :=
  (["length", "substr", "index", "split", "sub", "gsub", "match", "sprintf", "sin", "cos", "atan2",
    "exp", "log", "int", "sqrt", "rand", "srand", "close", "system", "toupper", "tolower",
    "fflush", "systime", "mktime", "strftime"] : List String).map String.toList

def Token.shown : Token → Text
  | number _ t => t
  | text t => t
  | regex t => '/' :: t ++ ['/']
  | name t _ => t
  | keyword t => t
  | builtin t => t
  | sign t => t
  | line => "end of line"
  | closing => "\x7d"
  | finish => "end of file"
  | stray c => [c]
  | foreign c => [c]
  | fault t => t

/-- whether a slash after a token stands between two numbers -/
def Token.isOperand : Token → Bool
  | number _ _ => true
  | text _ => true
  | regex _ => true
  | name _ _ => true
  | builtin _ => true
  | keyword t => t = "getline".toList
  | sign t => t == [')'] || t == [']'] || t == "++".toList || t == "--".toList
  | _ => false

/-- whether lines may end after a token without the end of a statement -/
def Token.goesOn : Token → Bool
  | sign t =>
    t == ['\x7b'] || t == ['\x7d'] || t == [';'] || t == [','] || t == "&&".toList
      || t == "||".toList
  | keyword t => t == "do".toList || t == "else".toList
  | line => true
  | _ => false

/-- what follows blanks and ends of lines that a backslash takes away, and the number of such
ends -/
def skipBlanks : Text → Nat → Text × Nat
  | '\\' :: '\n' :: r, k => skipBlanks r (k + 1)
  | '\\' :: '\r' :: '\n' :: r, k => skipBlanks r (k + 1)
  | ' ' :: r, k => skipBlanks r k
  | '\t' :: r, k => skipBlanks r k
  | '\r' :: r, k => skipBlanks r k
  | '\x0c' :: r, k => skipBlanks r k
  | '\x0b' :: r, k => skipBlanks r k
  | t, k => (t, k)

/-- where a character of a regular expression stands: outside of lists, in a list, or in the name
of a class in a list -/
inductive Inside where
  | nothing
  | list
  | className

/-- the regular expression up to its closing slash, and what follows; slashes in a list, or after a
backslash, do not end it -/
def regexEnd : Inside → Text → Text → Option (Text × Text)
  | _, _, [] => none
  | _, _, '\n' :: _ => none
  | k, read, '\\' :: '/' :: r => regexEnd k ('/' :: read) r
  | k, read, '\\' :: c :: r => if c = '\n' then none else regexEnd k (c :: '\\' :: read) r
  | .className, read, ':' :: ']' :: r => regexEnd .list (']' :: ':' :: read) r
  | .list, read, '[' :: ':' :: r => regexEnd .className (':' :: '[' :: read) r
  | .list, read, ']' :: r => regexEnd .nothing (']' :: read) r
  | .nothing, read, '[' :: '^' :: ']' :: r => regexEnd .list (']' :: '^' :: '[' :: read) r
  | .nothing, read, '[' :: ']' :: r => regexEnd .list (']' :: '[' :: read) r
  | .nothing, read, '[' :: r => regexEnd .list ('[' :: read) r
  | .nothing, read, '/' :: r => some (read.reverse, r)
  | k, read, c :: r => regexEnd k (c :: read) r

/-- the text up to its closing quote with its escapes as they are, and what follows -/
def textEnd (read : Text) : Text → Option (Text × Text)
  | [] => none
  | '\n' :: _ => none
  | '\\' :: c :: r => textEnd (c :: '\\' :: read) r
  | '"' :: r => some (read.reverse, r)
  | c :: r => textEnd (c :: read) r

def signs : List Text :=
  (["&&", "||", "++", "--", "+=", "-=", "*=", "%=", "^=", "==", "!=", "<=", ">=", ">>", "!~",
    "\x7b", "\x7d", "(", ")", "[", "]", ";", ",", "+", "-", "*", "%", "^", "!", ">", "<", "|",
    "?", ":", "~", "$", "="] : List String).map String.toList

def sign? (t : Text) : Option Text := signs.find? fun s => s.isPrefixOf t

/-- the token that a text begins with after blanks, and what follows; a slash begins a regular
expression unless `operand` tells that a number stands before it -/
def tokenOf (operand : Bool) (t : Text) : Token × Text :=
  match t with
  | [] => (.finish, [])
  | '\n' :: r => (.line, r)
  | '#' :: r => (.line, (r.dropWhile (· != '\n')).drop 1)
  | '"' :: r =>
    match textEnd [] r with
    | some (s, r) => (.text (unescape 0 s), r)
    | none => (.fault ("runaway string constant \"" ++ r.takeWhile (· != '\n') ++ " ..."), [])
  | '/' :: r =>
    if operand then
      match r with
      | '=' :: r => (.sign "/=", r)
      | _ => (.sign ['/'], r)
    else
      match regexEnd .nothing [] r with
      | some (s, r) => (.regex s, r)
      | none => (.fault ("runaway regular expression /" ++ r.takeWhile (· != '\n') ++ " ..."), [])
  | c :: r =>
    if c.isDigit ∨ (c = '.' ∧ (r.headD ' ').isDigit) then
      let (x, n) := floating t
      (.number x (t.take n), t.drop n)
    else if isVariableStart c then
      let w := t.takeWhile isVariableChar
      let r := t.drop w.length
      if keywords.contains w then (.keyword w, r)
      else if builtins.contains w then (.builtin w, r)
      else (.name w (r.head? == some '('), r)
    else
      match sign? t with
      | some s => (.sign s, t.drop s.length)
      | none =>
        if c = '&' then (.sign ['&'], r)
        else (.foreign c, [])

/-- how far reading has come: the line, the brackets and braces that are open, and the last token -/
structure Reached where
  line : Nat
  brackets : Nat
  braces : Nat
  last : Token

/-- what follows the ends of lines that mean nothing, the blanks and remarks between them, and the
line there -/
def skipLines : Nat → Text → Nat → Text × Nat
  | 0, t, line => (t, line)
  | n + 1, t, line =>
    let (t, k) := skipBlanks t 0
    match t with
    | '\n' :: r => skipLines n r (line + k + 1)
    | '#' :: r => skipLines n (r.dropWhile (· != '\n')) (line + k)
    | t => (t, line + k)

def lexemesFrom : Nat → Reached → Text → List Lexeme
  | 0, _, _ => []
  | n + 1, s, t =>
    let (t, k) := skipBlanks t 0
    let (t, line) :=
      if s.last.goesOn then skipLines (t.length + 1) t (s.line + k) else (t, s.line + k)
    let make := fun (x : Token) => Lexeme.mk x line s.brackets s.braces
    let go := fun (x : Token) (brackets braces : Nat) (r : Text) =>
      make x :: lexemesFrom n ⟨line, brackets, braces, x⟩ r
    match tokenOf s.last.isOperand t with
    | (.finish, _) => [make .finish]
    | (.fault what, _) => [make (.fault what)]
    | (.foreign c, _) => [make (.foreign c)]
    | (.line, r) => make .line :: lexemesFrom n ⟨line + 1, s.brackets, s.braces, .line⟩ r
    | (.sign ['('], r) => go (.sign ['(']) (s.brackets + 1) s.braces r
    | (.sign [')'], r) =>
      if s.brackets = 0 then
        make (.stray ')') :: lexemesFrom n { s with line := line, last := .stray ')' } r
      else go (.sign [')']) (s.brackets - 1) s.braces r
    | (.sign ['\x7b'], r) => go (.sign ['\x7b']) s.brackets (s.braces + 1) r
    | (.sign ['\x7d'], r) =>
      if s.braces = 0 then 
        make (.stray '\x7d') :: lexemesFrom n { s with line := line, last := .stray '\x7d' } r
      else
        let after := if s.braces = 1 then
            match skipBlanks r 0 with
            | (';' :: r, _) => r
            | _ => r
          else r
        let ended := match s.last with
          | .line => true
          | .sign x => x == [';'] || x == ['\x7d']
          | _ => false
        (if ended then [] else [make .closing])
          ++ go (.sign ['\x7d']) s.brackets (s.braces - 1) after
    | (x, r) => go x s.brackets s.braces r

def lexemes (t : Text) : List Lexeme :=
  lexemesFrom (2 * t.length + 4) ⟨1, 0, 0, .line⟩ (t ++ ['\n'])

end Awk
end Shell
end CoroBridge
