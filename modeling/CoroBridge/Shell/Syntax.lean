import CoroBridge.Shell.Octet

/-!
# Command language: syntax

What scripts are made of, once they are read.

* `Operation`         what becomes of a parameter's value;
* `Part`, `Word`      words, as characters, parameters, outputs of commands and values;
* `Direction`         where a redirection leads;
* `Command`           commands, simple ones and those that are made of others;
* `Token`             the words and signs of a script;
* `SyntaxFault`       the reasons why a text is no script.
-/

namespace CoroBridge
namespace Shell

inductive Operation where
  | plain
  | length
  | instead (orEmpty : Bool)
  | store (orEmpty : Bool)
  | demand (orEmpty : Bool)
  | alternative (orEmpty : Bool)
  | trim (atEnd longest : Bool)
  | unknown
  deriving DecidableEq, Repr

inductive Direction where
  | read
  | write
  | force
  | append
  | both
  | same
  | here
  deriving DecidableEq, Repr

mutual

inductive Part where
  | char (c : Char) (kept : Bool)
  | stretch
  | param (name : Text) (op : Operation) (operand : List Part) (quoted : Bool)
  | output (body : Option Command) (quoted : Bool)
  | value (expression : List Part) (quoted : Bool)

inductive Redirect where
  | mk (descriptor : Nat) (direction : Direction) (target : List Part)

inductive Case where
  | mk (patterns : List (List Part)) (body : Option Command)

inductive Command where
  | simple (line : Nat) (assigns : List (Text × List Part)) (words : List (List Part))
      (redirects : List Redirect)
  | pipeline (negated : Bool) (stages : List Command)
  | joined (onSuccess : Bool) (a b : Command)
  | sequence (a b : Command)
  | background (c : Command)
  | nested (c : Command)
  | redirected (line : Nat) (c : Command) (redirects : List Redirect)
  | conditional (test yes : Command) (no : Option Command)
  | loop (wanted : Bool) (test body : Command)
  | each (line : Nat) (name : Text) (words : Option (List (List Part))) (body : Command)
  | choice (line : Nat) (subject : List Part) (cases : List Case)
  | define (name : Text) (body : Command)

end

abbrev Word := List Part

instance : Inhabited Part := ⟨.stretch⟩

/-- the text of a word of plain characters alone -/
def Word.plain? : Word → Option Text
  | [] => some []
  | .char c false :: w => (Word.plain? w).map (c :: ·)
  | _ => none

/-! ## tokens -/

inductive Token where
  | word (w : Word)
  | keyword (t : Text)
  | redirect (descriptor : Nat) (direction : Direction) (tabs : Bool)
  | sign (t : Text)
  | newline
  | done

def keywords : List Text :=
  ["!", "case", "do", "done", "elif", "else", "esac", "fi", "for", "if", "in", "then", "until",
    "while", "\x7b", "\x7d"].map String.toList

/-- the tokens that no command begins with and that end a list of commands -/
def Token.ends : Token → Bool
  | keyword t =>
    (["do", "done", "elif", "else", "esac", "fi", "then", "\x7d"].map String.toList).contains t
  | sign t => t == ")".toList || t == ";;".toList
  | done => true
  | _ => false

def doubleQuoted (t : Text) : Text := "\"" ++ t ++ "\""

def Token.shown : Token → Text
  | word _ => "word"
  | keyword t => doubleQuoted t
  | redirect .. => "redirection"
  | sign t => doubleQuoted t
  | newline => "newline"
  | done => "end of file"

/-! ## faults -/

inductive SyntaxFault where
  | unexpected (found : Text) (expected : Option Text)
  | openQuote
  | openBrace
  | openValue
  | openBackquote
  | loopVariable
  | functionName
  | descriptor
  deriving DecidableEq, Repr

def SyntaxFault.message : SyntaxFault → Text
  | unexpected found none => "Syntax error: " ++ found ++ " unexpected"
  | unexpected found (some t) => "Syntax error: " ++ found ++ " unexpected (expecting " ++ t ++ ")"
  | openQuote => "Syntax error: Unterminated quoted string"
  | openBrace => "Syntax error: Missing '\x7d'"
  | openValue => "Syntax error: Missing '))'"
  | openBackquote => "Syntax error: EOF in backquote substitution"
  | loopVariable => "Syntax error: Bad for loop variable"
  | functionName => "Syntax error: Bad function name"
  | descriptor => "Syntax error: Bad fd number"

end Shell
end CoroBridge
