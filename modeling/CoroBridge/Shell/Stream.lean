import CoroBridge.Shell.State

/-!
# Command language: descriptors

Reading and writing through descriptors, and the channels that paths lead to.

* `Act.take`           some bytes that can be read;
* `Act.takeAll`        all bytes that can be read;
* `Act.giveBack`       bytes that were read too early;
* `Act.put`            a text written;
* `Act.openPath`       the channel of a path;
* `Act.connect`, `Act.withDescriptors`   descriptors that lead elsewhere.
-/

namespace CoroBridge
namespace Shell

def countless : Nat := 1000000000000

namespace Act

/-! ## channels -/

def channelOf (descriptor : Nat) : Act (Option Nat) := do
  return (← get).descriptors.lookup descriptor

def channel? (descriptor : Nat) : Act (Option Channel) := do
  let s ← get
  return (s.descriptors.lookup descriptor).bind fun k => s.channels[k]?

def setChannel (k : Nat) (c : Channel) : Act Unit :=
  modify fun s => { s with channels := s.channels.setIfInBounds k c }

def addChannel (c : Channel) : Act Nat :=
  modifyGet fun s => (s.channels.size, { s with channels := s.channels.push c })

/-- a new pipe, by the numbers of its end for reading and of its end for writing -/
def addPipe : Act (Nat × Nat) := do
  let p := (← get).pipes.size
  modify fun s => { s with pipes := s.pipes.push Pipe.empty }
  return (← addChannel (.outlet p), ← addChannel (.inlet p))

def connect (descriptor channel : Nat) : Act Unit :=
  modify fun s => { s with descriptors := Shell.put descriptor channel s.descriptors }

def close (descriptor : Nat) : Act Unit :=
  modify fun s => { s with descriptors := s.descriptors.filter (·.1 != descriptor) }

def withDescriptors {α : Type} (act : Act α) : Act α := do
  modify fun s => { s with kept := s.descriptors.map Prod.snd ++ s.kept }
  within (fun s s' =>
    { s' with descriptors := s.descriptors, kept := s'.kept.drop s.descriptors.length }) act

/-! ## reading -/

/-- at most so many of the bytes that a descriptor has to read, none at its end, as soon as there
are some -/
def takeFrom : Nat → Nat → Nat → Act (Except PathFault Text)
  | 0, _, _ => return .ok []
  | n + 1, descriptor, most => do
    match ← channelOf descriptor with
    | none => return .error .noDescriptor
    | some k =>
      let s ← get
      match s.channels[k]? with
      | some (.source t) =>
        setChannel k (.source (t.drop most))
        return .ok (t.take most)
      | some (.file place position use) =>
        if use = .read ∨ use = .both then
          let t := ((s.files.textAt place).drop position).take most
          setChannel k (.file place (position + t.length) use)
          return .ok t
        else return .error .unreadable
      | some (.directory _) => return .error .directory
      | some (.device .null) => return .ok []
      | some (.device .terminal) => return .ok []
      | some (.device _) => return .ok (List.replicate most '\x00')
      | some (.outlet p) =>
        if s.hasContent p then
          let (t, rest) := (s.pipes[p]?.getD Pipe.empty).take most
          modify fun s => { s with toWorld := s.toWorld.changePipe p fun _ => rest }
          return .ok t
        else if !s.isWritten p then return .ok []
        else
          await fun w => w.hasContent p || !w.isWritten p
          takeFrom n descriptor most
      | _ => return .error .unreadable

def take (descriptor most : Nat) : Act (Except PathFault Text) := takeFrom countless descriptor most

def block : Nat := 65536

/-- all bytes that a descriptor has to read, after some pieces, the last one first -/
def takeAllFrom : Nat → Nat → List Text → Act (Except PathFault Text)
  | 0, _, ts => return .ok ts.reverse.flatten
  | n + 1, descriptor, ts => do
    match ← take descriptor block with
    | .error f => return .error f
    | .ok [] => return .ok ts.reverse.flatten
    | .ok t => takeAllFrom n descriptor (t :: ts)

def takeAll (descriptor : Nat) : Act (Except PathFault Text) :=
  takeAllFrom countless descriptor []

def giveBack (descriptor : Nat) (t : Text) : Act Unit := do
  match ← channelOf descriptor with
  | none => return
  | some k =>
    let s ← get
    match s.channels[k]? with
    | some (.source rest) => setChannel k (.source (t ++ rest))
    | some (.file place position use) => setChannel k (.file place (position - t.length) use)
    | some (.outlet p) =>
      modify fun s => { s with toWorld := s.toWorld.changePipe p fun q => q.giveBack t }
    | _ => return

/-! ## writing -/

/-- a text with another one put in at a position, over what stands there -/
def overwritten (old : Text) (position : Nat) (t : Text) : Text :=
  if position = old.length then old ++ t
  else
    old.take position ++ List.replicate (position - old.length) '\x00' ++ t
      ++ old.drop (position + t.length)

/-- what becomes of a process that writes where nobody reads: a signal ends it, unless it is
prepared for that -/
def broken : Act (Option Blocked) := do
  let s ← get
  match s.reaction 13 with
  | .usual => throw (.ended (.signal 13))
  | .nothing => return some .broken
  | .commands _ =>
    post s.process 13
    return some .broken

/-- a text written to a pipe, as there is room for it -/
def putPiped : Nat → Nat → Text → Act (Option Blocked)
  | 0, _, _ => return none
  | n + 1, p, t => do
    let s ← get
    if !s.isRead p then broken
    else
      let room := (s.pipes[p]?.getD Pipe.empty).room t.length
      if room = t.length then
        modify fun s => { s with toWorld := s.toWorld.changePipe p fun q => q.put t }
        return none
      else
        if room ≠ 0 then
          modify fun s =>
            { s with toWorld := s.toWorld.changePipe p fun q => q.put (t.take room) }
        let rest := t.drop room
        let least := min rest.length Pipe.unit
        await fun w => !w.isRead p || (w.pipes[p]?).any fun q => q.size + least ≤ Pipe.capacity
        putPiped n p rest

def put (descriptor : Nat) (t : Text) : Act (Option Blocked) := do
  match ← channelOf descriptor with
  | none => return some .closed
  | some k =>
    let s ← get
    match s.channels[k]? with
    | some (.sink ts) =>
      setChannel k (.sink (t :: ts))
      return none
    | some (.device .full) => return if t = [] then none else some .full
    | some (.device _) => return none
    | some (.file place position use) =>
      if use = .read then return some .unwritable
      else
        let old := s.files.textAt place
        let position := if use = .append then old.length else position
        set { s with files := s.files.putText place (overwritten old position t) }
        setChannel k (.file place (position + t.length) use)
        return none
    | some (.inlet p) => if t = [] then return none else putPiped countless p t
    | _ => return some .unwritable

def write (descriptor : Nat) (t : Text) : Act Bool := return (← put descriptor t).isNone

/-! ## paths -/

def descriptor? (path : Text) : Option Nat :=
  if path = "/dev/stdin".toList then some 0
  else if path = "/dev/stdout".toList then some 1
  else if path = "/dev/stderr".toList then some 2
  else
    (Text.after? "/dev/fd/" path).bind number? <|> (Text.after? "/proc/self/fd/" path).bind number?

/-- the channel of what stands at a place, if it is no pipe -/
def channelAt (d : Direction) (p : Place) : Node → Except PathFault Channel
  | .file t _ => .ok (.file p (if d = .append then t.length else 0) d)
  | .directory => if d = .read then .ok (.directory p) else .error .directory
  | .device .terminal => .error .noTerminal
  | .device v => .ok (.device v)
  | .fifo => .error .invalid
  | .program _ => if d = .read then .ok (.device .null) else .error .denied

def pipeAt (p : Place) : Act Nat := do
  let s ← get
  match s.fifos.lookup p with
  | some k => return k
  | none =>
    set { s with pipes := s.pipes.push Pipe.empty, fifos := (p, s.pipes.size) :: s.fifos }
    return s.pipes.size

/-- an end of the pipe at a place; it is there once some process opens the other end -/
def openPipe (d : Direction) (p : Place) : Act Nat := do
  let q ← pipeAt p
  let reads := d == .read || d == .both
  let k ← addChannel (if reads then .outlet q else .inlet q)
  modify fun s =>
    { s with
      toWorld := s.toWorld.changePipe q fun x =>
        if reads then { x with readings := x.readings + 1 }
        else { x with writings := x.writings + 1 }
      kept := k :: s.kept }
  let seen := ((← get).pipes[q]?.map fun x => if reads then x.writings else x.readings).getD 0
  if d ≠ .both then
    await fun w =>
      (if reads then w.isWritten q else w.isRead q)
        || (w.pipes[q]?).any fun x => seen < (if reads then x.writings else x.readings)
  modify fun s => { s with kept := s.kept.erase k }
  return k

/-- the number of a channel that leads to or from a path, or the reason why there is none; where
`guarded`, no file is written over -/
def openAt (d : Direction) (guarded : Bool) (path : Text) : Act (Except PathFault Nat) := do
  match descriptor? path with
  | some n =>
    match ← channelOf n with
    | some k => return .ok k
    | none => return .error .missing
  | none =>
    let s ← get
    match if d = .read then s.files.place path else s.files.room path with
    | .error f => return .error (if f = .taken then .directory else f)
    | .ok p =>
      match s.files.at? p with
      | some .fifo => return .ok (← openPipe d p)
      | some n =>
        match channelAt d p n with
        | .error f => return .error f
        | .ok c =>
          if guarded && d = .write && n matches .file _ _ then return .error .taken
          else
            if (d = .write ∨ d = .force) ∧ n matches .file _ _ then
              modify fun s => { s with files := s.files.putText p [] }
            return .ok (← addChannel c)
      | none =>
        if d = .read then return .error .missing
        else
          modify fun s => { s with files := s.files.change p (some (.file [] false)) }
          return .ok (← addChannel (.file p 0 d))

/-- the reason why a file cannot be opened, as it is shown -/
def openingFault (reading : Bool) (path : Text) (f : PathFault) : Text :=
  (if reading then "cannot open " else "cannot create ") ++ path ++ ": "
    ++ match f with
      | .missing | .notDirectory => if reading then "No such file" else "Directory nonexistent"
      | _ => f.message

def openPath (d : Direction) (path : Text) : Act (Except Text Nat) := do
  match ← openAt d ('C' ∈ (← get).options) path with
  | .ok k => return .ok k
  | .error f => return .error (openingFault (d = .read) path f)

end Act
end Shell
end CoroBridge
