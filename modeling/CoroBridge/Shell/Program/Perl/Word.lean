import CoroBridge.Shell.Format
import CoroBridge.Shell.Program.Perl.Syntax

/-!
# Command language: the language of `perl`, words

How the words, quotes, numbers and operators of a program for `perl` are told apart.

* `Perl.Source`              what is left of the text, and what is known of the program;
* `Perl.Parse`               the reading of a text, with a complaint;
* `Perl.Parse.delimited`     a text between quotes;
* `Perl.Parse.document`      the lines up to a word;
* `Perl.Parse.operator?`     the operator that comes next;
* `Perl.Parse.numberAt`      the number that a text begins with.
-/

namespace CoroBridge
namespace Shell
namespace Perl

structure Source where
  rest : Text
  feeds : Nat
  file : Text
  fixedLine : Option Nat
  known : List Text
  ranges : Nat
  strict : Bool
  speaks : Bool
  declared : List (List Variable)
  data : Option Text
  notes : List Text
  previous : Text

abbrev Parse := StateT Source (Except Text)

namespace Parse

/-! ## characters -/

def rest : Parse Text := return (← get).rest

def setRest (t : Text) : Parse Unit := modify fun s => { s with rest := t }

def line : Parse Nat := do
  let s ← get
  return s.fixedLine.getD (1 + s.feeds - s.rest.count '\n')

def here : Parse Text := do
  return " at " ++ (← get).file ++ " line " ++ Text.ofNat (← line)

def lastLine : Parse Text := do
  let s ← get
  return " at " ++ s.file ++ " line " ++ Text.ofNat (max 1 s.feeds)

def fail {α : Type} (what : Text) : Parse α := do
  throw (List.flatten ((← get).notes ++ [what]))

def aborted : Parse Text := do
  return "Execution of " ++ (← get).file ++ " aborted due to compilation errors.\n"

def firstWord (t : Text) : Text :=
  match t with
  | [] => []
  | c :: _ => if isVariableChar c then t.takeWhile isVariableChar else [c]

def unexpected {α : Type} : Parse α := do
  let s ← get
  let w := firstWord s.rest
  let front := s.previous.take (s.previous.length - s.rest.length)
  let near : Text := if s.rest = [] then "" else front ++ w
  let last ← lastLine
  let place ← here
  let what : Text :=
    if s.rest.all isSpace then "syntax error" ++ last ++ ", at EOF\n"
    else "syntax error" ++ place ++ ", near \"" ++ near ++ "\"\n"
  fail (what ++ (← aborted))

/-- what follows blanks, remarks and documents; `front` tells that a line begins -/
def skipBlanks : Nat → Bool → Text → Text
  | 0, _, t => t
  | n + 1, front, t =>
    match t with
    | [] => []
    | '\n' :: r => skipBlanks n true r
    | '#' :: r => skipBlanks n false (r.dropWhile (· != '\n'))
    | '=' :: c :: _ =>
      if front ∧ c.isAlpha then
        match cutAt? "\n=cut" t with
        | some (_, r) => skipBlanks n false (r.dropWhile (· != '\n'))
        | none => []
      else t
    | c :: r => if isSpace c then skipBlanks n false r else t

def blanks : Parse Unit := modify fun s =>
  let r := skipBlanks (s.rest.length + 1) (s.rest.length == 0) s.rest
  { s with rest := r }

def peek : Parse Char := do
  blanks
  return (← rest).headD '\x00'

/-- a text passed, if it comes next after blanks -/
def sign? (w : Text) : Parse Bool := do
  blanks
  match Text.after? w (← rest) with
  | some r =>
    modify fun s => { s with previous := s.rest }
    setRest r
    return true
  | none => return false

def sign (w : Text) : Parse Unit := do
  if !(← sign? w) then
    if (← rest) = [] ∧ (w = ['\x7d'] ∨ w = [']']) then
      let place ← lastLine
      fail ("Missing right curly or square bracket" ++ place ++ ", at end of line\nsyntax error"
        ++ place ++ ", at EOF\n" ++ (← aborted))
    else unexpected

/-- a name with its qualifications at the beginning of a text -/
def nameAt (t : Text) : Text :=
  let rec from_ : Nat → Text → Text
    | 0, _ => []
    | n + 1, t =>
      let w := t.takeWhile isVariableChar
      match t.drop w.length with
      | ':' :: ':' :: r =>
        if (r.headD ' ').isAlpha || r.head? = some '_' then w ++ "::".toList ++ from_ n r else w
      | _ => w
  match t with
  | c :: _ => if isVariableStart c then from_ (t.length + 1) t else []
  | [] => []

def nextWord : Parse Text := do
  blanks
  return nameAt (← rest)

/-- a word passed, if it comes next after blanks -/
def word? (w : Text) : Parse Bool := do
  if (← nextWord) = w then
    modify fun s => { s with previous := s.rest, rest := s.rest.drop w.length }
    return true
  else return false

def word : Parse Text := do
  let w ← nextWord
  if w = [] then unexpected
  else
    modify fun s => { s with previous := s.rest, rest := s.rest.drop w.length }
    return w

/-! ## declarations -/

def declare (x : Variable) : Parse Unit := modify fun s =>
  match s.declared with
  | [] => { s with declared := [[x]] }
  | d :: ds => { s with declared := (x :: d) :: ds }

/-- what is read in a part of the program with declarations of its own -/
def enclosed {α : Type} (p : Parse α) : Parse α := do
  let s ← get
  modify fun s => { s with declared := [] :: s.declared }
  let a ← p
  modify fun s' => { s' with declared := s.declared, strict := s.strict }
  return a

def signOf : Sigil → Char
  | .scalar => '$'
  | .array => '@'
  | .hash => '%'

/-- a variable used, which must be declared where that is asked for -/
def used (x : Variable) : Parse Unit := do
  let s ← get
  let free := !s.strict || x.2.any (fun c => c == ':') || !(x.2.headD '0').isAlpha
    || (["a", "b", "ENV", "ARGV", "INC", "STDIN", "STDOUT", "STDERR", "ARGVOUT"] :
      List String).any (fun n => n.toList = x.2)
    || s.declared.any fun d => d.contains x
  if !free then
    let shown : Text := signOf x.1 :: x.2
    let what : Text := "Global symbol \"" ++ shown ++ "\" requires explicit package name "
      ++ "(did you forget to declare \"my " ++ shown ++ "\"?)" ++ (← here) ++ ".\n"
    modify fun s => { s with notes := s.notes ++ [what] }

/-! ## quotes -/

/-- the character that closes what another one opens -/
def closing : Char → Char
  | '(' => ')'
  | '[' => ']'
  | '\x7b' => '\x7d'
  | '<' => '>'
  | c => c

/-- the text up to a closing character, where brackets may stand in brackets, and what follows -/
def delimitedFrom (opening closing : Char) : Nat → Text → Text → Option (Text × Text)
  | _, _, [] => none
  | depth, read, '\\' :: c :: r => delimitedFrom opening closing depth (c :: '\\' :: read) r
  | depth, read, c :: r =>
    if c = closing then
      match depth with
      | 0 => some (read.reverse, r)
      | d + 1 => delimitedFrom opening closing d (c :: read) r
    else if c = opening then delimitedFrom opening closing (depth + 1) (c :: read) r
    else delimitedFrom opening closing depth (c :: read) r

def delimited : Parse (Char × Text) := do
  match ← rest with
  | [] => unexpected
  | c :: r =>
    match delimitedFrom c (closing c) 0 [] r with
    | some (t, r) =>
      setRest r
      return (c, t)
    | none =>
      fail ("Can't find string terminator '" ++ [closing c] ++ "' anywhere before EOF" ++ (← here)
        ++ ".\n")

/-- a text up to the end of a search, an exchange or a part of them, after its opening character -/
def delimitedAs (what : Text) : Parse (Char × Text) := do
  match ← rest with
  | [] => fail (what ++ " not terminated" ++ (← here) ++ ".\n")
  | c :: r =>
    match delimitedFrom c (closing c) 0 [] r with
    | some (t, r) =>
      setRest r
      return (c, t)
    | none => fail (what ++ " not terminated" ++ (← here) ++ ".\n")

/-- two texts, of which the second one begins where the first one ends or between brackets of its
own -/
def delimitedTwice (first second : Text) : Parse (Char × Text × Char × Text) := do
  let (c, t) ← delimitedAs first
  if closing c = c then
    setRest (c :: (← rest))
    let (d, u) ← delimitedAs second
    return (c, t, d, u)
  else
    blanks
    let (d, u) ← delimitedAs second
    return (c, t, d, u)

/-- a text between single quotes: a backslash stands before another one and before a quote -/
def plainText (opening : Char) : Text → Text
  | '\\' :: c :: r =>
    if c = '\\' ∨ c = opening ∨ c = closing opening then c :: plainText opening r
    else '\\' :: c :: plainText opening r
  | c :: r => c :: plainText opening r
  | [] => []

def letters : Parse Text := do
  let w := (← rest).takeWhile Char.isAlpha
  modify fun s => { s with rest := s.rest.drop w.length }
  return w

def notationOf (w : Text) : Trial.Notation :=
  ⟨w.contains 'i', w.contains 'm', w.contains 's', w.contains 'x', false, false⟩

def flagsOf (w : Text) : MatchFlags :=
  ⟨w.contains 'g', w.contains 'e', w.contains 'r', w.contains 'c', notationOf w⟩

/-- the lines of a text up to one that consists of a word, perhaps after blanks, and what follows -/
def linesUpTo (w : Text) (indented : Bool) : Nat → Text → Option (List Text × Text)
  | 0, _ => none
  | n + 1, t =>
    if t = [] then none
    else
      let l := t.takeWhile (· != '\n')
      let r := t.drop (l.length + 1)
      if (if indented then l.dropWhile isBlank else l) = w then some ([], r)
      else (linesUpTo w indented n r).map fun p => (l :: p.1, p.2)

/-- lines without the blanks that all of them begin with -/
def unindented (ls : List Text) : List Text :=
  let full := ls.filter fun l => !l.all isBlank
  let width := ((full.map fun l => (l.takeWhile isBlank).length).min?).getD 0
  ls.map (·.drop width)

def document (w : Text) (indented : Bool) : Parse Text := do
  let t ← rest
  let front := t.takeWhile (· != '\n')
  match linesUpTo w indented (t.length + 1) (t.drop (front.length + 1)) with
  | some (ls, r) =>
    setRest (front ++ '\n' :: r)
    return (if indented then unindented ls else ls).flatMap (· ++ ['\n'])
  | none =>
    fail ("Can't find string terminator \"" ++ w ++ "\" anywhere before EOF" ++ (← here) ++ ".\n")

/-! ## operators -/

/-- the operators between two expressions and their ranks, the longest ones first -/
def operators : List (Text × Nat) :=
  ([("<=>", 13), ("**", 21), ("=~", 19), ("!~", 19), ("==", 13), ("!=", 13), ("<=", 14),
    (">=", 14), ("<<", 16), (">>", 16), ("&&", 10), ("||", 9), ("//", 9), ("...", 8), ("..", 8),
    ("+", 17), ("-", 17), (".", 17), ("*", 18), ("/", 18), ("%", 18), ("<", 14), (">", 14),
    ("&", 12), ("|", 11), ("^", 11)] : List (String × Nat)).map fun p => (p.1.toList, p.2)

def wordOperators : List (Text × Nat) :=
  ([("x", 18), ("lt", 14), ("gt", 14), ("le", 14), ("ge", 14), ("eq", 13), ("ne", 13),
    ("cmp", 13), ("isa", 15)] : List (String × Nat)).map fun p => (p.1.toList, p.2)

def operator? : Parse (Option (Text × Nat × Text)) := do
  blanks
  let t ← rest
  let w := t.takeWhile Char.isAlpha
  let found :=
    if w ≠ [] then
      match wordOperators.lookup w with
      | some rank =>
        let r := t.drop w.length
        if (r.headD ' ') = '_' ∨ (w ≠ ['x'] ∧ (r.headD ' ').isDigit) then none
        else some (w, rank, r)
      | none => none
    else (operators.find? fun p => p.1.isPrefixOf t).map fun p =>
      (p.1, p.2, t.drop p.1.length)
  match found with
  | none => return none
  | some (op, rank, r) =>
    let assigns : Bool := match r with
      | '=' :: '=' :: _ => op = ['x']
      | '=' :: '~' :: _ => false
      | '=' :: '>' :: _ => op = ['x']
      | '=' :: _ => rank ≠ 13 ∧ rank ≠ 14 ∧ rank ≠ 19 ∧ rank ≠ 8
      | _ => false
    return if assigns then none else some (op, rank, r)

def assignments : List Text :=
  (["**=", "||=", "&&=", "//=", "<<=", ">>=", "+=", "-=", "*=", "/=", ".=", "%=", "x=", "&=", "|=",
    "^=", "="] : List String).map String.toList

/-- the assignment that comes next, and what follows -/
def assignment? : Parse (Option (Text × Text)) := do
  blanks
  let t ← rest
  match assignments.find? fun a => a.isPrefixOf t with
  | none => return none
  | some a =>
    let r := t.drop a.length
    if a = ['='] ∧ (r.head? = some '=' ∨ r.head? = some '~' ∨ r.head? = some '>') then return none
    else return some (a.dropLast, r)

/-! ## names -/

def stops : List Text :=
  (["if", "unless", "while", "until", "for", "foreach", "and", "or", "xor", "x", "eq", "ne", "lt",
    "gt", "le", "ge", "cmp"] : List String).map String.toList

def atStop : Parse Bool := do
  let c ← peek
  if c = '\x00' ∨ [';', ')', '\x7d', ']', ':', ',', '?'].contains c then return true
  else if c = '=' then
    return true
  else return stops.contains (← nextWord)

/-- whether a term may begin here, after a name that may take one -/
def atTerm : Parse Bool := do
  let c ← peek
  let t ← rest
  if c.isAlphanum ∨ c = '_' then return !stops.contains (← nextWord)
  else
    return ['$', '@', '"', '\x27', '\\', '\x60', '[', '!', '~', '\x7b'].contains c
      || ((c == '%' || c == '&') && (isVariableStart ((t.drop 1).headD ' ')
        || (t.drop 1).head? == some '$' || (t.drop 1).head? == some '\x7b'))
      || (c == '-' && !isSpace ((t.drop 1).headD ' ') && (t.drop 1).head? != some '=')
      || (c == '<' && (t.drop 1).head? != some ' ' && (t.drop 1).head? != some '=')

/-- the functions that take one argument, and the one where none is given -/
def unaries : List Text :=
  (["defined", "ref", "scalar", "lc", "uc", "lcfirst", "ucfirst", "length", "chr", "ord", "int",
    "hex", "oct", "abs", "sqrt", "log", "exp", "sin", "cos", "rand", "srand", "quotemeta", "shift",
    "pop", "chomp", "chop", "chdir", "rmdir", "readlink", "exists", "delete", "each", "keys",
    "values", "umask", "sleep", "localtime", "gmtime", "caller", "undef", "pos", "fc", "exit",
    "require", "alarm", "close", "closedir", "readdir", "eof", "fileno", "stat", "lstat", "chroot",
    "tell", "readline", "lock", "study", "getc", "local"] : List String).map String.toList

/-- further functions that take some arguments -/
def listers : List Text :=
  (["push", "unshift", "splice", "join", "split", "sprintf", "die", "warn", "reverse", "unlink",
    "open", "opendir", "kill", "system", "exec", "pack", "unpack", "index", "rindex", "substr",
    "chmod", "chown", "utime", "mkdir", "rename", "link", "symlink", "atan2", "binmode", "seek",
    "read", "sysread", "syswrite", "select", "bless", "waitpid", "truncate", "formline", "vec",
    "wait", "time", "times", "fork", "getppid", "wantarray", "crypt", "flock", "pipe", "dump",
    "__PACKAGE__", "__FILE__", "__LINE__", "__SUB__"] : List String).map String.toList

def nullaries : List Text :=
  (["wait", "time", "times", "fork", "getppid", "wantarray", "__PACKAGE__", "__FILE__",
    "__LINE__", "__SUB__"] : List String).map String.toList

def fileLetters : List Char := "edfrwxszlpSbctugkoRWXOTBAMC".toList

def signVariables : List Char := "&\x60'+!@/\\,;.0<>()[]|?:\"-~=^$%".toList

def wholeValue (d : Text) : Expr :=
  let n := digitsValue d
  if n < Nat.pow 2 64 then .whole n else .number (Float.ofScientific n false 0)

def numberAt (t : Text) : Expr × Text :=
  let inBase := fun (base skip : Nat) =>
    let d := (t.drop skip).takeWhile fun c => (digit? base c).isSome || c == '_'
    (.whole (digitRun base (d.filter (· != '_'))).1, t.drop (skip + d.length))
  match t with
  | '0' :: 'x' :: _ => inBase 16 2
  | '0' :: 'b' :: _ => inBase 2 2
  | '0' :: c :: _ =>
    if c.isDigit then inBase 8 1 else decimal t
  | _ => decimal t
where
  /-- a number in base ten -/
  decimal (t : Text) : Expr × Text :=
    let isDigitOr := fun (c : Char) => c.isDigit || c == '_'
    let whole := t.takeWhile isDigitOr
    let r := t.drop whole.length
    let (fraction, r) := match r with
      | '.' :: '.' :: _ => ([], r)
      | '.' :: q =>
        if isVariableStart (q.headD ' ') ∧ q.head? ≠ some 'e' then ([], r)
        else
          let d := q.takeWhile isDigitOr
          ('.' :: d, q.drop d.length)
      | _ => ([], r)
    let (exponent, r) := match r with
      | c :: q =>
        if c = 'e' ∨ c = 'E' then
          let sign := match q with
            | '-' :: _ => ['-']
            | '+' :: _ => ['+']
            | _ => []
          let d := (q.drop sign.length).takeWhile Char.isDigit
          if d = [] then ([], r) else ('e' :: sign ++ d, q.drop (sign.length + d.length))
        else ([], r)
      | [] => ([], r)
    if fraction = [] ∧ exponent = [] then (wholeValue (whole.filter (· != '_')), r)
    else
      (.number (floating ((whole ++ fraction ++ exponent).filter (· != '_'))).1, r)

/-! ## exchanges -/

/-- the characters of an exchange, with those of ranges -/
def exchanged : Nat → Text → Text
  | 0, _ => []
  | n + 1, t =>
    let single := fun (t : Text) => match t with
      | '\\' :: '-' :: r => ('-', r)
      | '\\' :: r => Trial.escapedMember r
      | c :: r => (c, r)
      | [] => ('\x00', [])
    match t with
    | [] => []
    | t =>
      let (a, r) := single t
      match r with
      | '-' :: q =>
        if q = [] then a :: exchanged n r
        else
          let (b, r) := single q
          (List.range (b.toNat + 1 - a.toNat)).map (fun k => Char.ofNat (a.toNat + k))
            ++ exchanged n r
      | _ => a :: exchanged n r

/-! ## pieces of quoted texts -/

/-- whether what follows an opening bracket in a text looks like an index -/
def looksLikeIndex (t : Text) : Bool :=
  let t := match t with
    | '-' :: r => r
    | t => t
  match t with
  | '$' :: r =>
    let w := r.takeWhile isVariableChar
    w ≠ [] && match r.drop w.length with
      | ']' :: _ => true
      | '+' :: _ => true
      | '-' :: _ => true
      | _ => false
  | t =>
    let d := t.takeWhile Char.isDigit
    d ≠ [] && (t.drop d.length).head? == some ']'

def looksLikeKey (inPattern : Bool) (t : Text) : Bool :=
  !(inPattern && (t.headD ' ' == ',' || (t.headD ' ').isDigit))

def joined (parts : List Expr) : Expr :=
  match parts with
  | [] => .text []
  | [.text t] => .text t
  | ps => .join ps

def front (read : Text) (parts : List Expr) : List Expr :=
  if read = [] then parts else .text read.reverse :: parts

/-- the escape that a text begins with after its backslash, and what follows -/
def escapeAt (t : Text) : Text × Text :=
  match t with
  | 'b' :: r => (['\x08'], r)
  | 'N' :: '\x7b' :: 'U' :: '+' :: r =>
    let h := r.takeWhile (· != '\x7d')
    ([Char.ofNat (digitRun 16 h).1], r.drop (h.length + 1))
  | t =>
    let (v, digits) := octalRun 3 t
    if digits ≠ 0 then ([Char.ofNat v], t.drop digits)
    else
      let (c, r) := match t with
        | 'u' :: r => ('u', r)
        | t => Trial.escaped t
      ([c], r)

def topic : Expr := .variable (.scalar, ['_'])

def against (negated : Bool) (subject : Expr) : Expr → Expr
  | .match_ none _ p k => .match_ (some subject) negated p k
  | .substitute none p r k => .substitute (some subject) p r k
  | .exchange none f t k => .exchange (some subject) f t k
  | e => .fits negated subject e

/-- whether what stands after an opening brace begins a hash and not a block -/
def beginsHash (t : Text) : Bool :=
  let t := skipBlanks (t.length + 1) false t
  let follows := fun (comma : Bool) (r : Text) =>
    match skipBlanks (r.length + 1) false r with
    | '=' :: '>' :: _ => true
    | ',' :: _ => comma
    | _ => false
  match t with
  | '"' :: r => follows true ((r.dropWhile (· != '"')).drop 1)
  | '\x27' :: r => follows true ((r.dropWhile (· != '\x27')).drop 1)
  | c :: _ =>
    isVariableStart c && follows (!c.isLower) (t.drop (t.takeWhile isVariableChar).length)
  | [] => false

def modules : List Text :=
  (["warnings", "utf8", "feature", "lib", "integer", "bytes", "open", "locale", "parent", "base",
    "List::Util", "Scalar::Util", "POSIX", "Data::Dumper", "Encode", "Time::HiRes", "File::Temp",
    "File::Basename", "Carp", "Getopt::Long", "IO::Handle", "IO::File", "Text::Wrap",
    "Text::Tabs", "Cwd", "Fcntl", "Errno", "English", "overload", "bigint", "Text::ParseWords",
    "File::Spec", "Time::Local", "Storable", "constant", "re", "sigtrap", "autodie", "diagnostics",
    "experimental", "vars", "version", "subs", "mro", "sort", "strict"] :
    List String).map String.toList

def modulePath : Text → Text
  | ':' :: ':' :: r => '/' :: modulePath r
  | c :: r => c :: modulePath r
  | [] => ".pm"

/-- the complaint about a file that is not found -/
def notFound (path hint : Text) : Text :=
  "Can't locate " ++ path ++ " in @INC " ++ hint ++ "(@INC contains: /etc/perl"
    ++ " /usr/local/lib/x86_64-linux-gnu/perl/5.36.0"
    ++ " /usr/local/share/perl/5.36.0 /usr/lib/x86_64-linux-gnu/perl5/5.36 /usr/share/perl5"
    ++ " /usr/lib/x86_64-linux-gnu/perl-base /usr/lib/x86_64-linux-gnu/perl/5.36"
    ++ " /usr/share/perl/5.36 /usr/local/lib/site_perl)"

def moduleHint (m : Text) : Text := "(you may need to install the " ++ m ++ " module) "

/-- whether a loop that sets a variable to a value goes on up to the end of something -/
def isLine : Expr → Bool
  | .readLine _ => true
  | .use f _ => f == "readdir".toList || f == "readline".toList
  | _ => false

/-- the test of a loop, which goes on up to the end of a file -/
def loopTest (e : Expr) : Expr :=
  if isLine e then .use "defined" [.assign [] topic e]
  else
    match e with
    | .assign [] (.variable (.scalar, _)) l => if isLine l then .use "defined" [e] else e
    | .assign [] (.my _ false) l => if isLine l then .use "defined" [e] else e
    | e => e

end Parse
end Perl
end Shell
end CoroBridge
