import CoroBridge.Shell.Builtin
import CoroBridge.Shell.Expansion
import CoroBridge.Shell.Invocation
import CoroBridge.Shell.Tool.All
import CoroBridge.Shell.Tool.Gather

/-!
# Command language: processes

What surrounds commands: descriptors that are led elsewhere for a while, processes of their own, and
tools.

* `Act.nested`         an action in a process of its own, awaited;
* `Act.capture`        what such an action writes;
* `Act.pipeline`       actions of which each reads what the one before it writes;
* `Act.redirect`       the redirections of a command;
* `Act.useTool`        a tool done;
* `Act.found`          what a program's name stands for;
* `killing`            what the arguments of `kill` ask for.
-/

namespace CoroBridge
namespace Shell

def commandTime : Nat := 20

def programTime : Nat := 700

namespace Act

/-! ## surroundings -/

def about (command : Text) (act : Act Unit) : Act Unit := do
  modify fun s => { s with about := command }
  act

def withAbout (command : Text) (act : Act Unit) : Act Unit :=
  within (fun s s' => { s' with about := s.about }) (about command act)

/-! ## processes -/

/-- the end of a process awaited; if a signal has ended it, that is told -/
def joinTold (id : Nat) : Act Ending := do
  let e ← join id
  Builtin.tell e
  return e

def nested (act : Act Unit) : Act Unit := do
  let e ← joinTold (← fork id act)
  finish (statusOf e)

def led (descriptor channel : Nat) (s : State) : State :=
  { s with descriptors := Shell.put descriptor channel s.descriptors }

def unnamed : Nat := 1000

/-- what an action in a process of its own writes, and its end -/
def captured (act : Act Unit) : Act (Text × Ending) := do
  let (outlet, inlet) ← addPipe
  let id ← fork (led 1 inlet) act
  connect unnamed outlet
  let t ← takeAll unnamed
  close unnamed
  let e ← joinTold id
  return (t.toOption.getD [], e)

def capture (act : Act Unit) : Act Text := do
  let (t, e) ← captured act
  modify fun s => { s with outputStatus := statusOf e }
  return t

/-- actions in processes of their own, each of which reads what the one before it writes, the first
one from a channel if one is named; the numbers of the processes -/
def chain (input : Option Nat) : List (Act Unit) → Act (List Nat)
  | [] => return []
  | [act] => do
    let id ← fork (match input with | some k => led 0 k | none => id) act
    return [id]
  | act :: acts => do
    let (outlet, inlet) ← addPipe
    let id ← fork (fun s => led 1 inlet (match input with | some k => led 0 k s | none => s)) act
    return id :: (← chain (some outlet) acts)

/-- processes awaited, in whatever order they end; their numbers and ends -/
def joinAll : Nat → List Nat → Act (List (Nat × Ending))
  | 0, _ => return []
  | n + 1, ids => do
    if ids = [] then return []
    else
      await fun w => ids.any fun id => !w.lives id
      let s ← get
      match ids.find? fun id => !s.lives id with
      | none => return []
      | some id =>
        let e ← joinTold id
        return (id, e) :: (← joinAll n (ids.erase id))

def pipeline (acts : List (Act Unit)) : Act Unit := do
  let ids ← chain none acts
  let ends ← joinAll ids.length ids
  finish (((ids.getLast?.bind fun id => ends.lookup id).map statusOf).getD 0)

def redirect (run : Option Command → Act Text) : List Redirect → Act Bool
  | [] => return true
  | .mk descriptor direction target :: rs => do
    let t ← wordText run target
    let failed := fun (what : Text) => do
      complain [] what
      return false
    match direction with
    | .here =>
      connect descriptor (← addChannel (.source t))
      redirect run rs
    | .same =>
      if t = ['-'] then
        close descriptor
        redirect run rs
      else
        match t with
        | [c] =>
          if c.isDigit then
            match ← channelOf (c.toNat - 48) with
            | some k =>
              connect descriptor k
              redirect run rs
            | none => failed (t ++ ": Bad file descriptor")
          else fail [] SyntaxFault.descriptor.message
        | _ => fail [] SyntaxFault.descriptor.message
    | _ =>
      match ← openPath direction t with
      | .ok k =>
        connect descriptor k
        redirect run rs
      | .error what => failed what

def check (tested : Bool) : Act Unit := do
  let s ← get
  if s.status ≠ 0 ∧ 'e' ∈ s.options ∧ !tested then exit s.status

def export_ (names : List Text) : Act Unit := modify fun s =>
  { s with bindings := s.bindings.map fun p =>
    if names.contains p.1 then (p.1, { p.2 with exported := true }) else p }

/-- assignments done, with the values exported where they are for another program -/
def assignAll (run : Option Command → Act Text) (exported : Bool) (as : List (Text × Word)) :
    Act (List Text) :=
  as.mapM fun a => do
    let t ← valueText run a.2
    assign a.1 t
    if exported then export_ [a.1]
    return a.1 ++ '=' :: t

/-- a line that shows a command before it is done, if that is asked for -/
def trace (words : List Text) : Act Unit := do
  if 'x' ∈ (← get).options then
    let front := (← lookup "PS4").getD []
    let t : Text := front ++ List.intercalate [' '] words ++ ['\n']
    discard (write 2 t)

/-! ## tools -/

/-- what hinders the output that a descriptor leads to; a pipe that nobody reads does if the signal
for that is of no effect -/
def blockedAt (s : State) (descriptor : Nat) : Option Blocked :=
  match (s.descriptors.lookup descriptor).bind fun k => s.channels[k]? with
  | none => some .closed
  | some (.sink _) => none
  | some (.device .full) => some .full
  | some (.device _) => none
  | some (.file _ _ use) => if use = .read then some .unwritable else none
  | some (.inlet p) =>
    if !s.isRead p && s.reaction 13 != .usual then some .broken else none
  | some _ => some .unwritable

def exportedOf (s : State) : List (Text × Text) :=
  s.bindings.filterMap fun p =>
    if p.2.exported then p.2.value.map fun v => (p.1, v) else none

/-- the reason why nothing can be read through a descriptor -/
def unreadableAt (s : State) (descriptor : Nat) : Option PathFault :=
  match (s.descriptors.lookup descriptor).bind fun k => s.channels[k]? with
  | none => some .noDescriptor
  | some (.directory _) => some .directory
  | some (.sink _) => some .unreadable
  | some (.inlet _) => some .unreadable
  | some (.file _ _ use) => if use = .read ∨ use = .both then none else some .unreadable
  | some _ => none

/-- what a tool of a name sees, before it has read anything -/
def callOf (name : Text) (args : List Text) : Act Call := do
  let s ← get
  let fromFile := match ← channel? 0 with
    | some (.file ..) => true
    | _ => false
  return {
    name := name, args := args
    source := match unreadableAt s 0 with | some f => .error f | none => .ok []
    fromFile := fromFile
    blocked := blockedAt s 1, files := s.files, environment := exportedOf s }

def utter (written : List (Stream × Text)) : Act Unit := do
  for w in written do
    if w.2 ≠ [] then discard (write (if w.1 = .output then 1 else 2) w.2)

/-- what comes of a tool brought about; so many characters of its output were written before -/
def apply (e : Effect) (uttered : Nat) : Act Unit := do
  match e.left with
  | some rest => giveBack 0 rest
  | none => pure ()
  if uttered = 0 then utter e.written
  else utter ((.output, e.output.drop uttered) :: e.written.filter (·.1 = .complaint))
  modify fun s =>
    { s with files := e.changes.foldl (fun f c => f.change c.1 c.2) s.files }
  finish e.status

def endedLines (t : Text) : Text := (t.reverse.dropWhile (· != '\n')).reverse

/-- each piece of the input passed on, up to the first one that finds no place -/
def passOn : Nat → Nat → Act (Option Blocked)
  | 0, _ => return none
  | n + 1, block => do
    match ← take 0 block with
    | .error _ => return none
    | .ok [] => return none
    | .ok t =>
      match ← put 1 t with
      | none => passOn n block
      | b => return b

/-- a tool done that reads its input up to the end, or up to a place that is enough for it; of a
long input it writes what it can before it has read everything: `pieces` were read, the last one
first, `size` is their length, `due` the length at which it looks at them again, and so much was
`uttered` -/
def digest (tool : Tool) (c : Call) (p : Pace) :
    Nat → List Text → Nat → Nat → Nat → Act Unit
  | 0, _, _, _, _ => finish 1
  | n + 1, pieces, size, due, uttered => do
    let all := fun (t : Text) => do
      let s ← get
      apply (tool { c with
        source := .ok t, files := s.files, blocked := blockedAt s 1 }) uttered
    match ← take 0 p.block with
    | .error _ => all pieces.reverse.flatten
    | .ok [] => all pieces.reverse.flatten
    | .ok t =>
      let pieces := t :: pieces
      let size := size + t.length
      let soon := size < 4096
      if !soon && size < due then digest tool c p n pieces size due uttered
      else
        let text := pieces.reverse.flatten
        if p.enough text then all text
        else if p.flows && size ≥ Pipe.capacity then
          let out := (tool { c with source := .ok (endedLines text), blocked := none }).output
          match ← put 1 (out.drop uttered) with
          | none => digest tool c p n [text] size (2 * size) (max uttered out.length)
          | some b => apply (tool { c with source := .ok text, blocked := some b }) 0
        else digest tool c p n [text] size (2 * size) uttered

/-- a tool done of which it is known what comes of it without an input -/
def useReader (tool : Tool) (c : Call) (e : Effect) : Act Unit := do
  if e.left.isNone ∨ c.source.toOption.isNone then apply e 0
  else
    let p := paceOf c
    if p.passes && c.blocked.isNone then
      match ← passOn countless p.block with
      | none => finish 0
      | some b => apply (tool { c with source := .ok ['\n'], blocked := some b }) 0
    else digest tool c p countless [] 0 0 0

def deviceReaders : List Text :=
  (["base64", "cat", "cut", "expand", "fold", "grep", "head", "nl", "od", "rev", "sed", "tac",
    "tail", "unexpand", "wc"] : List String).map String.toList

/-- the tools that do not look at what stands at the paths in their arguments -/
def namers : List Text :=
  (["basename", "chmod", "dirname", "echo", "expr", "false", "find", "ls", "mkdir", "mkfifo",
    "mktemp", "mv", "printenv", "printf", "rm", "rmdir", "seq", "sleep", "stat", "tee", "test", "[",
    "touch", "true", "yes"] : List String).map String.toList

/-- the texts of a row written one after the other, up to one that finds no place -/
def putRow (row : Nat → Option Text) : Nat → Nat → Act (Option Blocked)
  | 0, _ => return none
  | n + 1, k => do
    match row k with
    | none => return none
    | some t =>
      match ← put 1 t with
      | none =>
        turn commandTime
        putRow row n (k + 1)
      | b => return b

/-- the arguments of a tool that reads, with a dash for one that names a device without an end: that
is led to its input -/
def withDevice (name : Text) (args : List Text) : Act (List Text) := do
  let s ← get
  let endless := fun (a : Text) =>
    match s.files.find? a with
    | some (.device .zero) => true
    | some (.device .full) => true
    | _ => false
  match args.filter endless with
  | [a] =>
    if deviceReaders.contains name then
      match ← openAt .read false a with
      | .ok k =>
        connect 0 k
        return args.map fun b => if b = a then ['-'] else b
      | .error _ => return args
    else return args
  | _ => return args

/-- what stands at the arguments that name pipes, once it is read to the end -/
def pipedFiles : List Text → Act (List (Place × Option Node))
  | [] => return []
  | a :: as => do
    let s ← get
    match s.files.find? a, s.files.place a with
    | some .fifo, .ok p =>
      match ← openAt .read false a with
      | .ok k =>
        connect unnamed k
        let t ← takeAll unnamed
        close unnamed
        return (p, some (.file (t.toOption.getD []) false)) :: (← pipedFiles as)
      | .error _ => pipedFiles as
    | _, _ => pipedFiles as

def useTool (tool : Tool) (name : Text) (args : List Text) : Act Unit := do
  turn programTime
  let args ← withDevice name args
  let seen ← if namers.contains name then pure [] else pipedFiles args
  let see := fun (f : Files) => seen.foldl (fun f p => f.change p.1 p.2) f
  let tool : Tool := fun c => tool { c with files := see c.files }
  let c ← callOf name args
  match rowOf? c with
  | some row =>
    match ← putRow row countless 0 with
    | none => finish 0
    | some b => apply (tool { c with blocked := some b }) 0
  | none => useReader tool c (tool c)
/-! ## programs -/

inductive Executable where
  | tool (name : Text)
  | script (path text : Text)

/-- what stands at a path as a program, or the reason why it is none -/
def executable (f : Files) (path : Text) : Except PathFault Executable :=
  match f.find path with
  | .ok (.program name) => .ok (.tool name)
  | .ok (.file t true) => .ok (.script path t)
  | .ok _ => .error .denied
  | .error r => .error r

/-- what a program's name stands for in some directories, and the path at which it was found -/
def foundIn (f : Files) (name : Text) (refused : Bool) :
    List Text → Except PathFault (Executable × Text)
  | [] => .error (if refused then .denied else .missing)
  | d :: ds =>
    let path : Text := if d = [] then name else d ++ '/' :: name
    match executable f path with
    | .ok x => .ok (x, path)
    | .error .denied => foundIn f name (f.find? path != some .directory || refused) ds
    | .error _ => foundIn f name refused ds

def programPlaces (s : State) : List Text :=
  (((s.bindings.lookup "PATH".toList).bind Variable.value).getD "/bin:/usr/bin").splitOn ':'

def found (name : Text) : Act (Except PathFault (Executable × Text)) := do
  let s ← get
  if '/' ∈ name then return (executable s.files name).map fun x => (x, name)
  else if name = [] then return .error .denied
  else return foundIn s.files name false (programPlaces s)

/-- the path remembered at which a program was found by its bare name -/
def track (name : Text) : Act Unit := do
  if '/' ∉ name then
    match ← found name with
    | .ok (_, path) => modify fun s => { s with tracked := Shell.put name path s.tracked }
    | .error _ => return

/-- a name that stands for no program: the reason and the status -/
def missing (name : Text) (f : PathFault) : Text × Nat :=
  match f with
  | .missing | .notDirectory => ("not found", 127)
  | _ => (f.message, if name = [] then 127 else 126)

def killUsage : Text :=
  "Usage: kill [-s sigspec | -signum | -sigspec] [pid | job]... or\nkill -l [exitstatus]"

inductive Killing where
  | names (of : List Text)
  | signal (n : Nat) (receivers : List Text)

def killing : List Text → Except Text Killing
  | [] => .error killUsage
  | ('-' :: s) :: as =>
    match Signal.number? s with
    | some n => if as = [] then .error killUsage else .ok (.signal n as)
    | none =>
      match s with
      | ['-'] => if as = [] then .error killUsage else .ok (.signal 15 as)
      | ['l'] => .ok (.names as)
      | 's' :: name =>
        let (name, as) := if name = [] then (as.headD [], as.drop 1) else (name, as)
        match Signal.number? name with
        | some n => if as = [] then .error killUsage else .ok (.signal n as)
        | none => .error ("invalid signal number or name: " ++ name)
      | c :: _ => .error ("Illegal option -" ++ [c])
      | [] => .error killUsage
  | as => .ok (.signal 15 as)

def signalList : Text :=
  withEnds ((List.range 65).map fun n => if n = 0 then ['0'] else Signal.word n)

end Act
end Shell
end CoroBridge
