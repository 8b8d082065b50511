import CoroBridge.Cli.Arguments
import CoroBridge.Host

/-!
# The command line

The command reads declarations and writes the generated file, or says why it cannot.

* `Logger`          what is shown of a log;
* `Logger.write`    the text that it shows;
* `report`          the text about a fault: what was being done, and the cause, indented;
* `Cli.run`         the reply to some arguments and an input, for any logger and any way to read
                    arguments.
-/

namespace CoroBridge
namespace Cli

/-! ## logs -/

/-- the levels that are shown of a log, and the line for an entry, which may depend on the number of
lines before it -/
structure Logger where
  shows : Level → Bool
  line : Nat → Level × Text → Text

def Logger.write (logger : Logger) (log : List (Level × Text)) : Text :=
  ((log.filter fun e => logger.shows e.1).mapIdx logger.line).flatten

def Logger.warnings (line : Nat → Level × Text → Text) : Logger where
  shows v := v = .warn
  line := line

def Logger.off : Logger where
  shows _ := false
  line _ _ := []

/-! ## replies -/

/-- the text about a fault: what was being done, then the cause with four spaces before each line -/
def report (doing cause : Text) : Text :=
  "Error: " ++ doing ++ "\n\nCaused by:\n"
    ++ List.intercalate ['\n'] ((cause.splitOn '\n').map fun l => "    " ++ l) ++ "\n"

/-- the reply to an input: the whole file, or nothing but a report, which comes after the log -/
def generateReply (logger : Logger) (formatter : Formatter) (input : Bytes) : Reply :=
  match Utf8.decode input with
  | .error _ =>
    ⟨1, [], report "Failed to read declarations from stdin" "stream did not contain valid UTF-8"⟩
  | .ok t =>
    let file := generateFile {} formatter t
    let shown := logger.write file.log
    match file.outcome with
    | .ok code => ⟨0, code, shown⟩
    | .error fault =>
      ⟨1, [], shown ++ report "Failed to generate coroutine wrappers" fault.message⟩

/-- the reply to some arguments and an input, which counts only if the arguments are given no reply
at once; without a logger, nothing is shown of the log -/
def run (host : Host) (args : List Text) (input : Bytes) (logger : Logger := .off)
    (read : ArgumentReader := readArguments) : Reply :=
  match read args with
  | some reply => reply
  | none => generateReply logger (host.formatter usualProgram) input

end Cli
end CoroBridge
