import CoroBridge.Shell.State

/-!
# Command language: invocations

How a script is started as a program of its own.

* `Invocation`         what its arguments ask for;
* `Invocation.of`      the invocation that arguments are;
* `shellVariables`     the variables that every script has.
-/

namespace CoroBridge
namespace Shell

structure Invocation where
  fromText : Bool
  fromInput : Bool
  options : List Char
  operands : List Text
  deriving DecidableEq, Repr

namespace Invocation

def letters : Text := "efIimnsxvVECabu"

/-- an invocation with an option turned on or off, or a complaint -/
def turned (i : Invocation) (on : Bool) (c : Char) : Except Text Invocation :=
  if c = 'c' ∧ on then .ok { i with fromText := true }
  else if c = 'l' then .ok i
  else if c = 's' then .ok { i with fromInput := on }
  else if c ∈ letters then
    .ok { i with options := if on then c :: i.options else i.options.filter (· != c) }
  else .error ("Illegal option " ++ [if on then '-' else '+', c])

/-- the invocation that arguments are, after what was read of it -/
def from_ (i : Invocation) : List Text → Except Text Invocation
  | [] => .ok i
  | a :: as =>
    match a with
    | ['-'] => .ok { i with operands := as }
    | ['-', '-'] => .ok { i with operands := as }
    | sign :: c :: r =>
      if sign = '-' ∨ sign = '+' then do
        (← (c :: r).foldlM (fun i c => i.turned (sign == '-') c) i).from_ as
      else .ok { i with operands := a :: as }
    | _ => .ok { i with operands := a :: as }

def of (args : List Text) : Except Text Invocation := from_ ⟨false, false, [], []⟩ args

end Invocation

def shellVariables : List (Text × Variable) :=
  [("IFS", ⟨some " \t\n".toList, false, false⟩), ("OPTIND", ⟨some ['1'], false, false⟩),
    ("PS1", ⟨some "# ".toList, false, false⟩), ("PS2", ⟨some "> ".toList, false, false⟩),
    ("PS4", ⟨some "+ ".toList, false, false⟩)]

def usualPath : Text := "/usr/local/sbin:/usr/local/bin:/usr/sbin:/usr/bin:/sbin:/bin"

/-- the variables that scripts are given by those who start them -/
def givenVariables (here : Place) : List (Text × Variable) :=
  [("HOME", ⟨some "/root".toList, true, false⟩),
    ("PATH", ⟨some usualPath, true, false⟩),
    ("PWD", ⟨some (Files.path here), true, false⟩)]

end Shell
end CoroBridge
