import CoroBridge.Shell.State

/-!
# Command language: the schedule

Processes take turns: one goes on as soon as what it waits for is there, and where none can go on,
the time moves to the moment when the next one can.

* `Task`                 a process that has more to do;
* `Schedule`             the world and the tasks in it;
* `Schedule.ended`       the end of a process, as the others notice it;
* `Schedule.deliver`     signals brought to the processes that wait;
* `Schedule.follow`      what a step makes of the world;
* `Schedule.turn`        one turn of one process;
* `Schedule.run`         turns up to the end.
-/

namespace CoroBridge
namespace Shell

structure Task where
  id : Nat
  pause : Pause
  due : Option Nat
  stopped : Bool
  state : State
  next : State → Step

structure Schedule where
  world : World
  tasks : List Task
  ending : Option Ending

def forkTime : Nat := 400

namespace Task

def goes (t : Task) (w : World) : Bool :=
  !t.stopped
    && (t.due.any (· ≤ w.now) || t.pause.ready w || (t.pause.open_ && t.state.signalled w))

def waiting (id : Nat) (p : Pause) (now : Nat) (s : State) (next : State → Step) : Task :=
  ⟨id, p, p.within.map (now + ·), false, { s with channels := #[], pipes := #[] }, next⟩

def stateIn (t : Task) (w : World) : State :=
  { t.state with toWorld := { w with files := { w.files with here := t.state.files.here } } }

end Task

def State.held (s : State) : List Nat := s.descriptors.map Prod.snd ++ s.kept

namespace Schedule

def task? (s : Schedule) (id : Nat) : Option Task := s.tasks.find? (·.id == id)

def ended (s : Schedule) (id : Nat) (e : Ending) : Schedule :=
  let w := s.world
  let parent := ((w.process? id).map Process.parent).getD 0
  let left := w.processes.filter fun p => !(p.parent == id && p.ending.isSome)
  let processes :=
    if (s.task? parent).isSome then
      left.map fun p =>
        if p.id = id then { p with holds := [], ending := some e }
        else if p.parent = id then { p with parent := 1 }
        else p
    else
      (left.filter (·.id != id)).map fun p => if p.parent = id then { p with parent := 1 } else p
  let told := (s.task? parent).any fun t => t.state.reaction 17 matches .commands _
  let pending :=
    if told && !w.pending.contains (parent, 17) then w.pending ++ [(parent, 17)] else w.pending
  { world := { w with processes := processes, pending := pending }
    tasks := s.tasks.filter (·.id != id)
    ending := if id = firstProcess then some e else s.ending }

def stop (s : Schedule) (id : Nat) (stopped : Bool) : Schedule :=
  { s with tasks := s.tasks.map fun t => if t.id = id then { t with stopped := stopped } else t }

def stopping : List Nat := [19, 20, 21, 22]

/-- a signal brought to a process that waits; those that it has a trap for stay on their way -/
def deliverOne (s : Schedule) (signal : Nat × Nat) : Schedule :=
  let (id, k) := signal
  let s := if k = 18 then s.stop id false else s
  let passed :=
    { s with world := { s.world with pending := s.world.pending.erase (id, k) } }
  match s.task? id with
  | none => passed
  | some t =>
    match t.state.reaction k with
    | .commands _ => s
    | .nothing => passed
    | .usual =>
      if Signal.ends k then passed.ended id (.signal k)
      else if stopping.contains k then passed.stop id true
      else passed

def deliver (s : Schedule) : Schedule :=
  if s.world.pending.isEmpty then s else s.world.pending.foldl deliverOne s

def follow (s : Schedule) (id : Nat) : Step → Schedule
  | .ends e st => ended { s with world := st.toWorld } id e
  | .waits p st next =>
    let w := st.toWorld.changeProcess id fun q => { q with holds := st.held }
    { s with world := w, tasks := s.tasks ++ [.waiting id p w.now st next] }
  | .forks start child st next =>
    let n := st.nextProcess
    let start := { start with process := n, parent := id }
    let made : Process := ⟨n, id, start.held, none⟩
    let t : Task :=
      .waiting n ⟨fun _ => false, some forkTime, false⟩ st.now start child
    let st := { st with nextProcess := n + 1, processes := st.processes ++ [made] }
    follow { s with tasks := s.tasks ++ [t] } id (next n st)

def nextTime (s : Schedule) : Option Nat :=
  (s.tasks.filterMap fun t => if t.stopped then none else t.due).min?

def next? (w : World) : List Task → Option (Task × List Task)
  | [] => none
  | t :: ts => if t.goes w then some (t, ts) else (next? w ts).map fun p => (p.1, t :: p.2)

def turn (s : Schedule) : Option Schedule :=
  match next? s.world s.tasks with
  | some (t, others) =>
    let w := s.world
    let ending := s.ending
    let state := t.stateIn { w with now := w.now + 1 }
    some (deliver (follow ⟨w, others, ending⟩ t.id (t.next state)))
  | none =>
    s.nextTime.map fun now => { s with world := { s.world with now := max now s.world.now } }

def isOver (s : Schedule) : Bool :=
  s.ending.isSome && !s.world.holds fun c => c matches .sink _

def run : Nat → Schedule → Schedule
  | 0, s => s
  | n + 1, s =>
    if s.isOver then s
    else
      match s.turn with
      | some s => run n s
      | none => s

end Schedule
end Shell
end CoroBridge
