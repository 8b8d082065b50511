import CoroBridge.Fault
import CoroBridge.Shell.Octet

/-!
# Command language: signals

The signals by name and number, and what becomes of a program that gets one.

* `Signal.words`       the names of signals;
* `Signal.number?`     the signal that an argument names;
* `Signal.told?`       what is told of a program that a signal has ended;
* `Signal.ends`        whether a signal ends a program that does not wait for it;
* `statusOf`           the status that a program's end has for others.
-/

namespace CoroBridge
namespace Shell

namespace Signal

def words : List Text :=
  "EXIT".toList :: (signalNames.zipIdx 1).map fun s =>
    if s.2 = 16 then "16".toList else s.1.drop 3

def number? (a : Text) : Option Nat :=
  match Shell.number? a with
  | some n => if n < 65 then some n else none
  | none =>
    let upper := a.map Char.toUpper
    match words.findIdx? (· == upper) with
    | some n => some n
    | none =>
      if upper = "RTMIN".toList then some 34
      else if upper = "RTMAX".toList then some 64
      else
        match Text.after? "RTMIN+" upper, Text.after? "RTMAX-" upper with
        | some d, _ => (Shell.number? d).bind fun n => if n ≤ 15 then some (34 + n) else none
        | _, some d => (Shell.number? d).bind fun n => if n ≤ 14 then some (64 - n) else none
        | _, _ => none

def word (n : Nat) : Text :=
  if n < 32 then words.getD n (Text.ofNat n)
  else if n < 34 then Text.ofNat n
  else if n = 34 then "RTMIN"
  else if n < 50 then "RTMIN+" ++ Text.ofNat (n - 34)
  else if n < 64 then "RTMAX-" ++ Text.ofNat (64 - n)
  else if n = 64 then "RTMAX"
  else Text.ofNat n

/-- what is told of a program that a signal has ended, by the number of the signal -/
def messages : List Text :=
  (["", "Hangup", "Interrupt", "Quit", "Illegal instruction", "Trace/breakpoint trap", "Aborted",
    "Bus error", "Floating point exception", "Killed", "User defined signal 1",
    "Segmentation fault", "User defined signal 2", "Broken pipe", "Alarm clock", "Terminated",
    "Stack fault", "Child exited", "Continued", "Stopped (signal)", "Stopped",
    "Stopped (tty input)", "Stopped (tty output)", "Urgent I/O condition",
    "CPU time limit exceeded", "File size limit exceeded", "Virtual timer expired",
    "Profiling timer expired", "Window changed", "I/O possible", "Power failure",
    "Bad system call"] : List String).map String.toList

def told? (n : Nat) : Option Text :=
  if n = 2 ∨ n = 13 then none
  else if n < 32 then messages[n]?
  else if n < 34 then some ("Unknown signal " ++ Text.ofNat n)
  else some ("Real-time signal " ++ Text.ofNat (n - 34))

def harmless : List Nat := [0, 17, 18, 19, 20, 21, 22, 23, 28]

def ends (n : Nat) : Bool := !harmless.contains n

end Signal

def statusOf : Ending → Nat
  | .status n => n
  | .signal n => 128 + n

end Shell
end CoroBridge
