import CoroBridge.Handle
import CoroBridge.Name
import CoroBridge.Text.Utf8

/-!
# Faults

Everything that can end a run without a result, by cause, and the wording of each cause.

* `Breach`         a rule for bridges that a declaration breaks;
* `Mismatch`       a difference between a bridge's declaration and its coroutine's;
* `Ending`         the way in which a program ended;
* `Refusal`        the reason why a formatter gave no text;
* `SystemFault`    the reason why the system did not start a program;
* `Fault`          the faults of a run;
* `Fault.message`  their wording.
-/

namespace CoroBridge

/-- the result type of every bridge -/
def statusType : Text := "int"

/-- a text between backticks -/
def quoted (t : Text) : Text := "`" ++ t ++ "`"

/-! ## declarations that cannot be bridged -/

inductive Breach where
  | resultType (found : Text)
  | namesCoroutine
  | namesNoWrapper
  | noHandle
  | handleType (found : Text)
  | reserved (param : Text)
  | repeated (param : Text)
  deriving DecidableEq, Repr

def Breach.message : Breach → Text
  | resultType found =>
    "return type must be " ++ quoted statusType ++ ", found " ++ quoted found
  | namesCoroutine => quoted coroutineStem ++ " names the coroutine itself, not a wrapper"
  | namesNoWrapper => "name must start with " ++ quoted wrapperStem
  | noHandle => "missing the block driver handle parameter"
  | handleType found =>
    "first parameter must be " ++ quoted Handle.direct.typeText ++ " or "
      ++ quoted Handle.child.typeText ++ ", found " ++ quoted found
  | reserved param => "parameter name " ++ quoted param ++ " is used by the generated code"
  | repeated param => "duplicate parameter " ++ quoted param

/-! ## declarations that disagree -/

/-- a difference between a bridge's declaration and its coroutine's: the numbers of parameters,
or the two types at a position, counted from one -/
inductive Mismatch where
  | arity (wrapper coroutine : Nat)
  | type (position : Nat) (param wrapper coroutine : Text)
  deriving DecidableEq, Repr

def Mismatch.message : Mismatch → Text
  | arity wrapper coroutine =>
    "wrapper takes " ++ Text.ofNat wrapper ++ " parameters, coroutine takes "
      ++ Text.ofNat coroutine
  | type position param wrapper coroutine =>
    "parameter " ++ Text.ofNat position ++ " (" ++ quoted param ++ ") has type "
      ++ quoted wrapper ++ ", coroutine expects " ++ quoted coroutine

/-! ## formatters that fail -/

/-- the way in which a program ended: by a status of its own, or by a signal -/
inductive Ending where
  | status (code : Nat)
  | signal (number : Nat)
  deriving DecidableEq, Repr

/-- the names of the signals from 1 on -/
def signalNames : List Text :=
  ["SIGHUP", "SIGINT", "SIGQUIT", "SIGILL", "SIGTRAP", "SIGABRT", "SIGBUS", "SIGFPE", "SIGKILL",
   "SIGUSR1", "SIGSEGV", "SIGUSR2", "SIGPIPE", "SIGALRM", "SIGTERM", "SIGSTKFLT", "SIGCHLD",
   "SIGCONT", "SIGSTOP", "SIGTSTP", "SIGTTIN", "SIGTTOU", "SIGURG", "SIGXCPU", "SIGXFSZ",
   "SIGVTALRM", "SIGPROF", "SIGWINCH", "SIGIO", "SIGPWR", "SIGSYS"]

def signalName? : Nat → Option Text
  | 0 => none
  | n + 1 => signalNames[n]?

def Ending.message : Ending → Text
  | status code => "exit status: " ++ Text.ofNat code
  | signal number =>
    match signalName? number with
    | some name => "signal: " ++ Text.ofNat number ++ " (" ++ name ++ ")"
    | none => "signal: " ++ Text.ofNat number

/-- the reason why a formatter gave no text: its program ended badly and said something about
it, its output is no text, or a reason in its own words -/
inductive Refusal where
  | exited (program : Text) (ending : Ending) (complaint : Text)
  | output (fault : Utf8.Fault)
  | stated (reason : Text)
  deriving DecidableEq, Repr

def Refusal.message : Refusal → Text
  | exited program ending complaint =>
    program ++ " exited with " ++ ending.message ++ ": " ++ complaint
  | output fault => "output is not UTF-8: " ++ fault.message
  | stated reason => reason

inductive SystemFault where
  | notFound
  | permissionDenied
  | notDirectory
  | nameTooLong
  | zeroByte
  | stated (reason : Text)
  deriving DecidableEq, Repr

def SystemFault.message : SystemFault → Text
  | notFound => "No such file or directory (os error 2)"
  | permissionDenied => "Permission denied (os error 13)"
  | notDirectory => "Not a directory (os error 20)"
  | nameTooLong => "File name too long (os error 36)"
  | zeroByte => "nul byte found in provided data"
  | stated reason => reason

/-! ## faults -/

inductive Fault where
  | malformed (function fragment : Text)
  | unsupported (function : Text) (breach : Breach)
  | drift (function counterpart : Text) (mismatch : Mismatch)
  | formatter (refusal : Refusal)
  | system (fault : SystemFault)
  deriving DecidableEq, Repr

def Fault.message : Fault → Text
  | malformed function fragment =>
    "malformed declaration of " ++ quoted function ++ ": wrong parameter declaration \""
      ++ fragment ++ "\""
  | unsupported function breach =>
    "unsupported signature of " ++ quoted function ++ ": " ++ breach.message
  | drift function counterpart mismatch =>
    quoted function ++ " does not match " ++ quoted counterpart ++ ": " ++ mismatch.message
  | formatter refusal => "formatter failed: " ++ refusal.message
  | system fault => fault.message

end CoroBridge
