import CoroBridge.Shell.Process

/-!
# Command language: buffers

How programs that run other programs read and write: piece by piece, through descriptors of their
own.

* `Inflow`             what was read through a descriptor and not yet used;
* `Inflow.next`        the next piece of the input;
* `Outflow`            what is to be written through a descriptor;
* `Outflow.put`, `Outflow.flush`   a text to be written, and all of them written;
* `Helpers`            how programs run other programs;
* `Act.inflowOf`, `Act.outflowTo`  files and commands to read from and to write to.
-/

namespace CoroBridge
namespace Shell

structure Inflow where
  descriptor : Nat
  buffer : Text
  ended : Bool

structure Outflow where
  descriptor : Nat
  pending : List Text
  size : Nat

def bufferSize : Nat := 4096

/-- the piece up to a character, and what follows that one -/
def pieceUpTo (c : Char) (t : Text) : Option (Text × Text) :=
  let piece := t.takeWhile (· != c)
  match t.drop piece.length with
  | [] => none
  | _ :: r => some (piece, r)

def pieceWith (c : Char) (t : Text) : Option (Text × Text) :=
  (pieceUpTo c t).map fun p => (p.1 ++ [c], p.2)

namespace Inflow

def of (descriptor : Nat) : Inflow := ⟨descriptor, [], false⟩

/-- the next piece of the input: the first one that `cut` finds, or what is left at the end -/
def nextFrom (cut : Text → Option (Text × Text)) :
    Nat → Inflow → Act (Except PathFault (Option Text) × Inflow)
  | 0, f => return (.ok none, f)
  | n + 1, f => do
    match if f.buffer = [] then none else cut f.buffer with
    | some (t, rest) => return (.ok (some t), { f with buffer := rest })
    | none =>
      if f.ended then
        return (.ok (if f.buffer = [] then none else some f.buffer), { f with buffer := [] })
      else
        match ← Act.take f.descriptor bufferSize with
        | .error e => return (.error e, { f with ended := true })
        | .ok [] => nextFrom cut n { f with ended := true }
        | .ok t => nextFrom cut n { f with buffer := f.buffer ++ t }

def next (cut : Text → Option (Text × Text)) (f : Inflow) :
    Act (Except PathFault (Option Text) × Inflow) := nextFrom cut countless f

def all (f : Inflow) : Act (Except PathFault Text × Inflow) := do
  if f.ended then return (.ok f.buffer, { f with buffer := [] })
  else
    match ← Act.takeAll f.descriptor with
    | .error e => return (.error e, { f with ended := true })
    | .ok t => return (.ok (f.buffer ++ t), ⟨f.descriptor, [], true⟩)

end Inflow

namespace Outflow

def of (descriptor : Nat) : Outflow := ⟨descriptor, [], 0⟩

def flush (f : Outflow) : Act (Option Blocked × Outflow) := do
  if f.size = 0 then return (none, f)
  else
    match ← Act.put f.descriptor f.pending.reverse.flatten with
    | none => return (none, of f.descriptor)
    | b => return (b, f)

def put (f : Outflow) (t : Text) : Act (Option Blocked × Outflow) := do
  let f := { f with pending := t :: f.pending, size := f.size + t.length }
  if bufferSize ≤ f.size then f.flush else return (none, f)

end Outflow

structure Helpers where
  shell : Text → Act Unit
  program : Text → List Text → Act (Option (Text × Nat))

namespace Act

def withoutOwn (s : State) : State :=
  { s with descriptors := s.descriptors.filter (·.1 < unnamed), kept := [] }

def ownDescriptor : Act Nat := do
  return (← get).descriptors.foldl (fun n d => max n (d.1 + 1)) (unnamed + 1)

def inflowOf (path : Text) : Act (Except PathFault Inflow) := do
  match ← openAt .read false path with
  | .error f => return .error f
  | .ok k =>
    let n ← ownDescriptor
    connect n k
    return .ok (.of n)

def outflowTo (atEnd : Bool) (path : Text) : Act (Except PathFault Outflow) := do
  match ← openAt (if atEnd then .append else .write) false path with
  | .error f => return .error f
  | .ok k =>
    let n ← ownDescriptor
    connect n k
    return .ok (.of n)

/-- what a process of its own writes, and the number of that process -/
def inflowFrom (act : Act Unit) : Act (Inflow × Nat) := do
  let (outlet, inlet) ← addPipe
  let id ← fork (fun s => led 1 inlet (withoutOwn s)) act
  let n ← ownDescriptor
  connect n outlet
  return (.of n, id)

/-- what a process of its own reads, and the number of that process -/
def outflowInto (act : Act Unit) : Act (Outflow × Nat) := do
  let (outlet, inlet) ← addPipe
  let id ← fork (fun s => led 0 outlet (withoutOwn s)) act
  let n ← ownDescriptor
  connect n inlet
  return (.of n, id)

end Act
end Shell
end CoroBridge
