import CoroBridge.Shell.Run
import CoroBridge.Shell.Schedule

/-!
# Command language: scripts

What a script does when it is started as a program.

* `World.start`, `State.start`   the world and the state in which a script begins;
* `script`                       the program that a text is.
-/

namespace CoroBridge
namespace Shell

/-- the names of the programs that a script finds -/
def programNames : List Text :=
  plainTools.map Prod.fst
    ++ (["sh", "dash", "awk", "mawk", "perl", "env", "find", "xargs", "nohup", "nice", "setsid", "stdbuf",
      "timeout"] :
      List String).map String.toList

def World.start (host : Host) (name whole input : Text) : World where
  files :=
    { host := host, tools := programNames
      changes := [(host.here ++ [name], some (.file whole true))]
      here := host.here, script := (name, host.here ++ [name]) }
  channels := #[.source input, .sink [], .sink []]
  pipes := #[]
  fifos := []
  processes := [⟨firstProcess, firstProcess - 1, [0, 1, 2], none⟩]
  nextProcess := firstProcess + 1
  now := 0
  pending := []

def State.start (w : World) (host : Host) (name : Text) (args : List Text) : State where
  toWorld := w
  process := firstProcess
  shell := firstProcess
  parent := firstProcess - 1
  name := name
  about := []
  args := args
  bindings := ("PPID".toList, ⟨some (Text.ofNat (firstProcess - 1)), false, false⟩)
    :: shellVariables ++ givenVariables host.here
  functions := []
  aliases := []
  tracked := []
  descriptors := [(0, 0), (1, 1), (2, 2)]
  kept := []
  line := 1
  status := 0
  outputStatus := 0
  jobs := []
  lastJob := none
  options := []
  optionPlace := none
  mask := 18
  ignored := []
  traps := []
  loops := 0
  hidden := []

def World.written (w : World) (k : Nat) : Bytes :=
  bytes ((w.channels[k]?.map Channel.written).getD [])

def Schedule.of (s : State) (act : Act Unit) : Schedule :=
  ⟨s.toWorld, [.waiting s.process ⟨fun _ => true, none, false⟩ 0 s act.steps], none⟩

def script (host : Host) (name t : Text) : Program := fun args input =>
  let name := octetsOf name
  let whole : Text := "#!/bin/sh\n" ++ octetsOf t ++ ['\n']
  let start := State.start (World.start host name whole (octets input)) host name
    (args.map octetsOf)
  let act := Act.withEnd countless (Act.runText countless 1 whole)
  let s := (Schedule.of start act).run countless
  ⟨s.ending.getD (.status 0), s.world.written 1, s.world.written 2⟩

end Shell
end CoroBridge
