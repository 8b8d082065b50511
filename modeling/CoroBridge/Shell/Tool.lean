import CoroBridge.Shell.Files
import CoroBridge.Shell.Quoted

/-!
# Command language: tools

A tool is a program of its own: it sees its name, its arguments, its input and the files, and all
that comes of it is what it writes, a status, and some changes to the files.

* `Call`          what a tool sees;
* `Effect`        what comes of a tool;
* `Pace`          how a tool treats a long input;
* `Call.read`     the text that can be read at a path; a dash stands for the input;
* `Manner`        how a tool complains about what it cannot read;
* `Call.onAll`    what a tool makes of all that stands at its operands;
* `linesOf`       the lines of a text; `withEnds` ends each of them.
-/

namespace CoroBridge
namespace Shell

/-! ## calls and effects -/

structure Call where
  name : Text
  args : List Text
  source : Except PathFault Text
  fromFile : Bool
  blocked : Option Blocked
  files : Files
  environment : List (Text × Text)

def Call.input (c : Call) : Option Text := c.source.toOption

def Call.inputClosed (c : Call) : Bool :=
  match c.source with
  | .error .noDescriptor => true
  | _ => false

inductive Stream where
  | output
  | complaint
  deriving DecidableEq, Repr

structure Effect where
  left : Option Text
  written : List (Stream × Text)
  changes : List (Place × Option Node)
  status : Nat
  deriving DecidableEq, Repr

abbrev Tool := Call → Effect

structure Pace where
  passes : Bool
  flows : Bool
  enough : Text → Bool
  block : Nat

def Pace.whole : Pace := ⟨false, false, fun _ => false, 65536⟩

def Pace.lines : Pace := ⟨false, true, fun _ => false, 65536⟩

def silent (status : Nat) : Effect := ⟨none, [], [], status⟩

def writing (t : Text) : Effect := ⟨none, [(.output, t)], [], 0⟩

def Effect.output (e : Effect) : Text :=
  (e.written.filter (·.1 = .output)).flatMap Prod.snd

def Call.complaint (c : Call) (what : Text) : Text := c.name ++ ": " ++ what ++ "\n"

def Call.fail (c : Call) (status : Nat) (what : Text) : Effect :=
  ⟨none, [(.complaint, c.complaint what)], [], status⟩

def Call.hint (c : Call) : Text := "Try '" ++ c.name ++ " --help' for more information.\n"

def Call.misused (c : Call) (status : Nat) (what : Text) : Effect :=
  ⟨none, [(.complaint, c.complaint what ++ c.hint)], [], status⟩

abbrev Loss := Call → Blocked → Effect → Effect

/-- an effect without its output, with a complaint and a status -/
def Effect.lose (e : Effect) (what : Text) (status : Nat) : Effect :=
  { e with
    written := e.written.filter (·.1 = .complaint) ++ [(.complaint, what)]
    status := status }

def lostWith (status : Nat) : Loss := fun c b e =>
  if e.output = [] then e else e.lose (c.complaint ("write error: " ++ b.message)) status

/-- a tool that notices if its output is blocked -/
def Tool.losing (loss : Loss) (t : Tool) : Tool := fun c =>
  match c.blocked with
  | none => t c
  | some b => loss c b (t c)

/-! ## reading -/

def isInput (path : Text) : Bool :=
  path == ['-'] || path == "/dev/stdin".toList || path == "/dev/fd/0".toList
    || path == "/proc/self/fd/0".toList

def Call.read (c : Call) (path : Text) : Except ReadFault Text :=
  if isInput path then
    match c.source with
    | .ok t => .ok t
    | .error f =>
      if path = ['-'] ∨ f ≠ .noDescriptor then .error ⟨true, f⟩ else .error ⟨false, .missing⟩
  else c.files.read path

/-- what can be read at some paths, in order; the input can be read once -/
def Call.readAll (c : Call) : Bool → List Text → List (Text × Except ReadFault Text)
  | _, [] => []
  | used, p :: ps =>
    if isInput p ∧ used ∧ c.input.isSome then (p, .ok []) :: c.readAll true ps
    else (p, c.read p) :: c.readAll (used || isInput p) ps

structure Manner where
  opening : Text → PathFault → Text
  reading : Text → PathFault → Text
  closing : Text

def usualManner : Manner where
  opening p f := shownName p ++ ": " ++ f.message
  reading p f := shownName p ++ ": " ++ f.message
  closing := "-: Bad file descriptor"

def Call.faultOf (c : Call) (m : Manner) (path : Text) (f : ReadFault) : Text :=
  c.complaint ((if f.opened then m.reading else m.opening) path f.reason)

def pathsOf (operands : List Text) : List Text := if operands = [] then [['-']] else operands

def leftBy (paths : List Text) : Option Text := if paths.any isInput then some [] else none

/-- what a tool makes of what it has found at its paths, after the complaints about the others -/
def Call.onFound (c : Call) (m : Manner) (status : Nat) (paths : List Text)
    (f : List (Text × Text) → Text) : Effect :=
  let found := c.readAll false paths
  let complaint := found.flatMap fun x =>
    match x.2 with
    | .ok _ => []
    | .error e => c.faultOf m x.1 e
  let closing :=
    if c.inputClosed && paths.contains ['-'] && m.closing ≠ [] then c.complaint m.closing else []
  let texts := found.filterMap fun x => x.2.toOption.map fun t => (x.1, t)
  let out := f texts
  ⟨leftBy paths, [(.complaint, complaint), (.output, out), (.complaint, closing)], [],
    if complaint = [] then 0 else status⟩

def Call.onAll (c : Call) (operands : List Text) (f : List (Text × Text) → Text) : Effect :=
  c.onFound usualManner 1 (pathsOf operands) f

/-! ## lines -/

def recordsOf (ending : Char) (t : Text) : List Text :=
  let ls := t.splitOn ending
  if ls.getLast? = some [] then ls.dropLast else ls

def linesOf (t : Text) : List Text := recordsOf '\n' t

def withEndings (ending : Char) (ls : List Text) : Text := ls.flatMap (· ++ [ending])

def withEnds (ls : List Text) : Text := withEndings '\n' ls

def piecesOf (ending : Char) (t : Text) : List Text :=
  let ls := recordsOf ending t
  if t.getLast? = some ending then ls.map (· ++ [ending])
  else ls.dropLast.map (· ++ [ending]) ++ ls.getLast?.toList

def padWith (c : Char) (width : Nat) (t : Text) : Text := List.replicate (width - t.length) c ++ t

def padLeft (width : Nat) (t : Text) : Text := padWith ' ' width t

end Shell
end CoroBridge
