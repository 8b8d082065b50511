import CoroBridge.Shell.Arithmetic
import CoroBridge.Shell.Signal
import CoroBridge.Shell.World

/-!
# Command language: state

What a process has at its disposal while it runs, and what it leaves behind.

* `Variable`           a value with its marks;
* `State`              everything that commands see and change;
* `Flow`               a command's ways out;
* `Step`               what a process does until it has to wait, and what it does then;
* `Act`                commands as actions on the state, which may wait and take a way out;
* `Act.pause`, `Act.fork`, `Act.join`   waiting, and processes of their own;
* `put`                a value under a key in a list.
-/

namespace CoroBridge
namespace Shell

/-! ## state -/

structure Variable where
  value : Option Text
  exported : Bool
  fixed : Bool
  deriving DecidableEq, Repr

/-- a process that was started in the background: its number, its end as far as it is known, and
whether it was waited for -/
structure Job where
  process : Nat
  ending : Option Ending
  known : Bool
  deriving DecidableEq, Repr

structure State extends World where
  process : Nat
  shell : Nat
  parent : Nat
  name : Text
  about : Text
  args : List Text
  bindings : List (Text × Variable)
  functions : List (Text × Command)
  aliases : List (Text × Text)
  tracked : List (Text × Text)
  descriptors : List (Nat × Nat)
  kept : List Nat
  line : Nat
  status : Nat
  outputStatus : Nat
  jobs : List Job
  lastJob : Option Nat
  options : List Char
  optionPlace : Option Nat
  mask : Nat
  ignored : List Nat
  traps : List (Nat × Text)
  loops : Nat
  hidden : List (List (Text × Option Variable))

/-- what a process does when a signal comes: what is usual for the signal, nothing, or commands -/
inductive Reaction where
  | usual
  | nothing
  | commands (t : Text)
  deriving DecidableEq, Repr

/-- what a process does when a signal comes; two of them are never caught -/
def State.reaction (s : State) (signal : Nat) : Reaction :=
  if signal = 9 ∨ signal = 19 then .usual
  else if signal ∈ s.ignored then .nothing
  else
    match s.traps.lookup signal with
    | none => .usual
    | some t => if t = [] then .nothing else .commands t

def State.signalled (s : State) (w : World) : Bool := w.pending.any (·.1 == s.process)

inductive Flow where
  | leave (loops : Nat)
  | again (loops : Nat)
  | back
  | ended (ending : Ending)
  deriving DecidableEq, Repr

def put {κ α : Type} [DecidableEq κ] (k : κ) (a : α) : List (κ × α) → List (κ × α)
  | [] => [(k, a)]
  | p :: ps => if p.1 = k then (k, a) :: ps else p :: put k a ps

theorem lookup_put {κ α : Type} [DecidableEq κ] (k : κ) (a : α) (ps : List (κ × α)) :
    (put k a ps).lookup k = some a := by
  induction ps with
  | nil => simp [put]
  | cons p ps ih =>
    by_cases h : p.1 = k
    · simp [put, h]
    · have hk : (k == p.1) = false := beq_false_of_ne (Ne.symm h)
      rw [put, if_neg h, List.lookup_cons, hk]
      exact ih

/-! ## steps -/

/-- what a process waits for: something in the world, or until some time has passed, whichever comes
first; where it is `open_`, a signal that the process has a trap for ends the pause too -/
structure Pause where
  ready : World → Bool
  within : Option Nat
  open_ : Bool

inductive Step where
  | ends (ending : Ending) (s : State)
  | waits (p : Pause) (s : State) (next : State → Step)
  | forks (start : State) (child : State → Step) (s : State) (next : Nat → State → Step)

/-! ## actions -/

def Act (α : Type) : Type := State → (Except Flow α → State → Step) → Step

namespace Act

/-- an action that only gives a value -/
@[inline] protected def pure {α : Type} (a : α) : Act α := fun s k => k (.ok a) s

/-- an action and then the one that its value leads to -/
@[inline] protected def bind {α β : Type} (x : Act α) (f : α → Act β) : Act β := fun s k =>
  x s fun r s =>
    match r with
    | .ok a => f a s k
    | .error e => k (.error e) s

instance : Monad Act where
  pure := Act.pure
  bind := Act.bind

instance : MonadStateOf State Act where
  get := fun s k => k (.ok s) s
  set s := fun _ k => k (.ok ()) s
  modifyGet f := fun s k => k (.ok (f s).1) (f s).2

instance : MonadExceptOf Flow Act where
  throw e := fun s k => k (.error e) s
  tryCatch x h := fun s k =>
    x s fun r s =>
      match r with
      | .ok a => k (.ok a) s
      | .error e => h e s k

/-- an action, and the way out that it takes, if it takes one -/
def outcome (act : Act Unit) : Act (Option Flow) := fun s k =>
  act s fun r s =>
    match r with
    | .ok () => k (.ok none) s
    | .error e => k (.ok (some e)) s

def within {α : Type} (restore : State → State → State) (act : Act α) : Act α := fun s k =>
  act s fun r s' => k r (restore s s')

/-- the end of a process whose last action has come out some way -/
def ending (r : Except Flow Unit) (s : State) : Ending :=
  match r with
  | .error (.ended e) => e
  | _ => .status s.status

def steps (act : Act Unit) : State → Step := fun s => act s fun r s => .ends (ending r s) s

def pause (p : Pause) : Act Unit := fun s k => .waits p s (k (.ok ()))

def turn (time : Nat) : Act Unit := pause ⟨fun _ => false, some time, false⟩

def await (ready : World → Bool) : Act Unit := do
  let s ← get
  if !ready s.toWorld then pause ⟨ready, none, false⟩

def fork (prepare : State → State) (child : Act Unit) : Act Nat := fun s k =>
  let start := prepare { s with traps := s.traps.filter (·.2 == []), jobs := [] }
  .forks start child.steps s fun n s => k (.ok n) s

def exit {α : Type} (status : Nat) : Act α := throw (.ended (.status status))

def finish (status : Nat) : Act Unit := modify fun s => { s with status := status }

/-- the jobs as far as their ends are known by now; the processes that have ended are forgotten -/
def reap : Act Unit := modify fun s =>
  let ended := s.processes.filter fun p =>
    p.ending.isSome && s.jobs.any fun j => j.process == p.id
  if ended.isEmpty then s
  else
    { s with
      jobs := s.jobs.map fun j =>
        { j with ending := j.ending <|> (ended.find? (·.id == j.process)).bind Process.ending }
      processes := s.processes.filter fun p => !ended.any (·.id == p.id) }

def join (id : Nat) : Act Ending := do
  await fun w => !w.lives id
  let s ← get
  set { s with toWorld := s.forget id }
  reap
  return (s.ending? id).getD (.status 0)

def post (id signal : Nat) : Act Unit := modify fun s =>
  if s.pending.contains (id, signal) then s else { s with pending := s.pending ++ [(id, signal)] }

end Act
end Shell
end CoroBridge
