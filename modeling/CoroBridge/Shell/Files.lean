import CoroBridge.Host
import CoroBridge.Shell.Octet

/-!
# Command language: files

The files that scripts and tools see: those of a host, and what scripts have made of them.

* `Device`, `Node`       what stands at a path;
* `Files`                a tree of files, and the directory where paths begin;
* `Files.find`           what stands at a path, or the reason why nothing does;
* `Files.room`           the place where something can be made at a path;
* `Files.names`          the names in a directory;
* `Files.read`           the text that can be read at a path.
-/

namespace CoroBridge
namespace Shell

inductive Device where
  | null
  | zero
  | full
  | terminal
  deriving DecidableEq, Repr

inductive Node where
  | directory
  | file (text : Text) (runs : Bool)
  | device (d : Device)
  | fifo
  | program (name : Text)
  deriving DecidableEq, Repr

abbrev Place := List Text

structure Files where
  host : Host
  tools : List Text
  changes : List (Place × Option Node)
  here : Place
  script : Text × Place

/-- the reasons why nothing can be done at a path -/
inductive PathFault where
  | missing
  | notDirectory
  | directory
  | longName
  | denied
  | noTerminal
  | noDescriptor
  | unreadable
  | taken
  | notEmpty
  | invalid
  deriving DecidableEq, Repr

def PathFault.message : PathFault → Text
  | missing => "No such file or directory"
  | notDirectory => "Not a directory"
  | directory => "Is a directory"
  | longName => "File name too long"
  | denied => "Permission denied"
  | noTerminal => "No such device or address"
  | noDescriptor => "Bad file descriptor"
  | unreadable => "Bad file descriptor"
  | taken => "File exists"
  | notEmpty => "Directory not empty"
  | invalid => "Invalid argument"

inductive Blocked where
  | closed
  | unwritable
  | full
  | broken
  deriving DecidableEq, Repr

def Blocked.message : Blocked → Text
  | closed => "Bad file descriptor"
  | unwritable => "Bad file descriptor"
  | full => "No space left on device"
  | broken => "Broken pipe"

/-- the reason why nothing can be read: there is nothing to open, or reading fails -/
structure ReadFault where
  opened : Bool
  reason : PathFault
  deriving DecidableEq, Repr

namespace Files

def devices : List (Text × Device) :=
  [("null", .null), ("zero", .zero), ("full", .full), ("tty", .terminal), ("random", .zero),
    ("urandom", .zero)]

def toolPlaces : List Place := [["bin"], ["usr", "bin"]]

def at? (f : Files) (p : Place) : Option Node :=
  match f.changes.lookup p with
  | some n => n
  | none =>
    let name := p.getLast?.getD []
    if toolPlaces.contains p.dropLast && f.tools.contains name then some (.program name)
    else if p.dropLast = [("dev" : Text)] ∧ (devices.lookup name).isSome then
      (devices.lookup name).map .device
    else
      match f.host.tree.lookup p with
      | some .directory => some .directory
      | some (.data t) => some (.file t false)
      | some (.program _) => some (.program name)
      | none => none

/-- the place that a way leads to, which may lead through no file -/
def walk (f : Files) (p : Place) : List Text → Except PathFault Place
  | [] => .ok p
  | c :: cs =>
    match f.at? p with
    | none => .error .missing
    | some .directory =>
      if longestName < c.length then .error .longName
      else if c = [] ∨ c = ['.'] then f.walk p cs
      else if c = ['.', '.'] then f.walk p.dropLast cs
      else f.walk (p ++ [c]) cs
    | some _ => .error .notDirectory

def origin (f : Files) (path : Text) : Place := if path.head? = some '/' then [] else f.here

def place (f : Files) (path : Text) : Except PathFault Place :=
  if path = [] then .error .missing
  else if path = f.script.1 then .ok f.script.2
  else if longestPath < path.length then .error .longName
  else f.walk (f.origin path) (path.splitOn '/')

def find (f : Files) (path : Text) : Except PathFault Node := do
  match f.at? (← f.place path) with
  | some n => .ok n
  | none => .error .missing

def find? (f : Files) (path : Text) : Option Node := (f.find path).toOption

def room (f : Files) (path : Text) : Except PathFault Place := do
  let p ← f.place path
  if p = [] then .error .taken
  else
    match f.at? p.dropLast with
    | some .directory => .ok p
    | some _ => .error .notDirectory
    | none => .error .missing

def change (f : Files) (p : Place) (n : Option Node) : Files :=
  { f with changes := (p, n) :: f.changes.filter (·.1 != p) }

/-- a text put at a place, where a file keeps its mark -/
def putText (f : Files) (p : Place) (t : Text) : Files :=
  let runs := match f.at? p with
    | some (.file _ runs) => runs
    | _ => false
  f.change p (some (.file t runs))

def textAt (f : Files) (p : Place) : Text :=
  match f.at? p with
  | some (.file t _) => t
  | _ => []

def names (f : Files) (p : Place) : List Text :=
  let places := f.changes.map Prod.fst ++ f.host.tree.map Prod.fst
  let names := (places.filter fun q => q ≠ [] ∧ q.dropLast = p ∧ (f.at? q).isSome).filterMap
    List.getLast?
  (names.foldl (fun ns n => if ns.contains n then ns else n :: ns) []).mergeSort
    fun a b => !Text.precedes b a

def unlinked (f : Files) (path : Text) : Except PathFault Files := do
  if (← f.find path) matches .directory then .error .directory
  else return f.change (← f.place path) none

def withDirectory (f : Files) (path : Text) : Except PathFault Files := do
  let p ← f.room path
  if (f.at? p).isSome then .error .taken else return f.change p (some .directory)

/-- the tree without the directory at a path, which must be empty -/
def withoutDirectory (f : Files) (path : Text) : Except PathFault Files := do
  if !((← f.find path) matches .directory) then .error .notDirectory
  else
    let p ← f.place path
    if f.names p ≠ [] then .error .notEmpty else return f.change p none

/-- the tree where what stands at a path stands at another one -/
def renamed (f : Files) (from_ target : Text) : Except PathFault Files := do
  let n ← f.find from_
  let p ← f.place from_
  let q ← f.room target
  return (f.change p none).change q (some n)

def trimSlashes (path : Text) : Text := (path.reverse.dropWhile (· == '/')).reverse

def path (p : Place) : Text := '/' :: List.intercalate ['/'] p

/-! ## reading -/

def zeros : Text := List.replicate 65536 '\x00'

def textOf : Node → Except ReadFault Text
  | .directory => .error ⟨true, .directory⟩
  | .file t _ => .ok t
  | .device .null => .ok []
  | .device .zero => .ok zeros
  | .device .full => .ok zeros
  | .device .terminal => .error ⟨false, .noTerminal⟩
  | .fifo => .ok []
  | .program _ => .ok []

def read (f : Files) (path : Text) : Except ReadFault Text :=
  match f.find path with
  | .ok n => textOf n
  | .error reason => .error ⟨false, reason⟩

end Files
end Shell
end CoroBridge
