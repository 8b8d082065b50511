import CoroBridge.Fault
import CoroBridge.Shell.Files
import CoroBridge.Shell.Syntax

/-!
# Command language: the world of processes

What all processes share: the files, the channels that descriptors lead to, the pipes between
processes, the processes themselves, and the time.

* `Channel`              where bytes come from or go to;
* `Pipe`                 what was written at one end and not yet read at the other;
* `Process`              a process as others see it;
* `World`                all of this, and the signals that are on their way;
* `World.isRead`, `World.isWritten`   whether some process has an end of a pipe;
* `Pipe.put`, `Pipe.take`, `Pipe.giveBack`   what the ends of a pipe do, of which `Pipe.content`
  tells.
-/

namespace CoroBridge
namespace Shell

/-! ## channels -/

inductive Channel where
  | source (rest : Text)
  | sink (written : List Text)
  | file (place : Place) (position : Nat) (use : Direction)
  | directory (place : Place)
  | device (d : Device)
  | inlet (pipe : Nat)
  | outlet (pipe : Nat)
  deriving DecidableEq, Repr

def Channel.written : Channel → Text
  | sink ts => ts.reverse.flatten
  | _ => []

/-! ## pipes -/

structure Pipe where
  front : List Text
  back : List Text
  size : Nat
  readings : Nat
  writings : Nat
  deriving DecidableEq, Repr

/-- at most so many characters of some pieces, and the pieces that are left -/
def taken : Nat → List Text → Text × List Text
  | _, [] => ([], [])
  | most, t :: ts =>
    match t.drop most with
    | [] => (t ++ (taken (most - t.length) ts).1, (taken (most - t.length) ts).2)
    | r => (t.take most, r :: ts)

theorem taken_append (most : Nat) (ts : List Text) :
    (taken most ts).1 ++ (taken most ts).2.flatten = ts.flatten := by
  induction ts generalizing most with
  | nil => rfl
  | cons t ts ih =>
    unfold taken
    split
    · simp [ih]
    · simp only [List.flatten_cons, ← List.append_assoc, List.take_append_drop]

namespace Pipe

def empty : Pipe := ⟨[], [], 0, 0, 0⟩

def capacity : Nat := 65536

def unit : Nat := 4096

def content (p : Pipe) : Text := (p.front ++ p.back.reverse).flatten

def put (p : Pipe) (t : Text) : Pipe :=
  { p with back := t :: p.back, size := p.size + t.length }

def take (p : Pipe) (most : Nat) : Text × Pipe :=
  let (t, rest) := taken most (if p.back.isEmpty then p.front else p.front ++ p.back.reverse)
  (t, { p with front := rest, back := [], size := p.size - t.length })

def giveBack (p : Pipe) (t : Text) : Pipe :=
  { p with front := t :: p.front, size := p.size + t.length }

def room (p : Pipe) (length : Nat) : Nat :=
  let free := capacity - p.size
  if length ≤ free then length else if length ≤ unit then 0 else free

theorem room_le (p : Pipe) (length : Nat) : p.room length ≤ length := by
  simp only [room]
  split
  · exact Nat.le_refl _
  · split <;> omega

theorem content_put (p : Pipe) (t : Text) : (p.put t).content = p.content ++ t := by
  simp [content, put]

theorem content_giveBack (p : Pipe) (t : Text) : (p.giveBack t).content = t ++ p.content := by
  simp [content, giveBack]

theorem content_take (p : Pipe) (most : Nat) :
    (p.take most).1 ++ (p.take most).2.content = p.content := by
  by_cases h : p.back = []
  · simp [take, content, h, taken_append]
  · have := taken_append most (p.front ++ p.back.reverse)
    simp_all [take, content]

end Pipe

/-! ## processes -/

structure Process where
  id : Nat
  parent : Nat
  holds : List Nat
  ending : Option Ending
  deriving DecidableEq, Repr

structure World where
  files : Files
  channels : Array Channel
  pipes : Array Pipe
  fifos : List (Place × Nat)
  processes : List Process
  nextProcess : Nat
  now : Nat
  pending : List (Nat × Nat)

def firstProcess : Nat := 4242

namespace World

def holds (w : World) (wanted : Channel → Bool) : Bool :=
  w.processes.any fun p => p.holds.any fun k => w.channels[k]?.any wanted

def isRead (w : World) (pipe : Nat) : Bool := w.holds (· == .outlet pipe)

def isWritten (w : World) (pipe : Nat) : Bool := w.holds (· == .inlet pipe)

def process? (w : World) (id : Nat) : Option Process := w.processes.find? (·.id == id)

def ending? (w : World) (id : Nat) : Option Ending := (w.process? id).bind Process.ending

def lives (w : World) (id : Nat) : Bool := (w.process? id).any fun p => p.ending.isNone

def family (w : World) (id : Nat) : List Nat :=
  w.processes.foldl (fun ids p => if ids.contains p.parent then ids ++ [p.id] else ids) [id]

def changeProcess (w : World) (id : Nat) (f : Process → Process) : World :=
  { w with processes := w.processes.map fun p => if p.id = id then f p else p }

def forget (w : World) (id : Nat) : World :=
  { w with processes := w.processes.filter (·.id != id) }

def changePipe (w : World) (pipe : Nat) (f : Pipe → Pipe) : World :=
  { w with pipes := w.pipes.modify pipe f }

def hasContent (w : World) (pipe : Nat) : Bool := (w.pipes[pipe]?.map Pipe.size).any (0 < ·)

end World
end Shell
end CoroBridge
