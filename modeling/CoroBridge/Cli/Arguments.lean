import CoroBridge.Text.Likeness
import CoroBridge.Text.Terminal

/-!
# Arguments

The command takes no argument but the two that ask about it.

* `Reply`             what a command leaves behind: its status and the two texts that it wrote;
* `ArgumentReader`    a way to read arguments;
* `Query`             the two questions about the command;
* `Misuse`            the reason why an argument is refused;
* `Misuse.message`    the wording of it;
* `Request`           what the arguments ask for;
* `Request.ofArgs`    the request that the arguments make;
* `readArguments`     the same, with the reply that is given at once.
-/

namespace CoroBridge
namespace Cli

structure Reply where
  status : Nat
  output : Text
  complaint : Text
  deriving DecidableEq, Repr

/-- the reply that some arguments are given at once; if there is none, the command goes on -/
abbrev ArgumentReader := List Text → Option Reply

/-! ## arguments -/

inductive Query where
  | help
  | version
  deriving DecidableEq, Repr

def Query.long : Query → Text
  | help => "help"
  | version => "version"

def Query.short : Query → Char
  | help => 'h'
  | version => 'V'

def queries : List Query := [.help, .version]

/-- the reason why an argument is refused: nobody expects it, with the query that may have been
meant, or it gives a value to a query -/
inductive Misuse where
  | unexpected (argument : Text) (meant : Option Query)
  | needless (value : Text) (query : Query)
  deriving DecidableEq, Repr

inductive Request where
  | generate
  | answer (query : Query)
  | refuse (misuse : Misuse)
  deriving DecidableEq, Repr

/-- two words are taken for one another if they are more alike than this -/
def alike : Float := 0.7

/-- the query that a long name was meant for: the one most like it, the later one of equals, if it
is like it at all -/
def meant? (name : Text) : Option Query :=
  let near := queries.filter fun q => alike < jaro name q.long
  near.foldl (fun best q =>
    match best with
    | none => some q
    | some b => if jaro name q.long < jaro name b.long then some b else some q) none

/-- the name and the value of a long option: the value comes after an equals sign -/
def splitValue (t : Text) : Text × Option Text :=
  let name := t.takeWhile (· != '=')
  match t.dropWhile (· != '=') with
  | [] => (name, none)
  | _ :: value => (name, some value)

/-- the request of a long option, given without its dashes -/
def Request.ofLong (t : Text) : Request :=
  let (name, value) := splitValue t
  match queries.find? (·.long = name), value with
  | some q, none => .answer q
  | some q, some v => .refuse (.needless v q)
  | none, _ => .refuse (.unexpected ("--" ++ name) (meant? name))

/-- the request that the arguments make: the first one decides, of a group of letters the first
letter, and two dashes alone only say that no option follows -/
def Request.ofArgs : List Text → Request
  | [] => .generate
  | [['-', '-']] => .generate
  | ['-', '-'] :: a :: _ => .refuse (.unexpected a none)
  | ('-' :: '-' :: t) :: _ => .ofLong t
  | ('-' :: c :: _) :: _ =>
    match queries.find? (·.short = c) with
    | some q => .answer q
    | none => .refuse (.unexpected ['-', c] none)
  | a :: _ => .refuse (.unexpected a none)

/-! ## answers -/

def commandName : Text := "co-wrapper"

def Query.answer : Query → Text
  | help =>
    "Generates blocking wrappers for generated_co_wrapper declarations read from stdin\n\n"
      ++ "Usage: " ++ commandName ++ "\n\nOptions:\n  -h, --help     Print help\n"
      ++ "  -V, --version  Print version\n"
  | version => commandName ++ " 0.1.0\n"

def usage (option : Text) : Text :=
  "\n\nUsage: " ++ commandName ++ option ++ "\n\nFor more information, try '--help'.\n"

/-- the wording of a refusal, which repeats of an argument what a terminal would show -/
def Misuse.message : Misuse → Text
  | unexpected a none => "error: unexpected argument '" ++ a.shown ++ "' found" ++ usage []
  | unexpected a (some q) =>
    "error: unexpected argument '" ++ a.shown ++ "' found\n\n  tip: a similar argument exists: '--"
      ++ q.long ++ "'" ++ usage (" --" ++ q.long)
  | needless v q =>
    "error: unexpected value '" ++ v.shown ++ "' for '--" ++ q.long
      ++ "' found; no more were expected" ++ usage (" --" ++ q.long)

/-- the reply that the arguments are given at once, if they ask for no file -/
def readArguments : ArgumentReader := fun args =>
  match Request.ofArgs args with
  | .generate => none
  | .answer q => some ⟨0, q.answer, []⟩
  | .refuse m => some ⟨2, [], m.message⟩

end Cli
end CoroBridge
