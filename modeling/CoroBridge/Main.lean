import CoroBridge.Cli

/-!
# The command

Reads the arguments, the standard input if they ask for a file, and writes the reply.
-/

partial def readRest (stream : IO.FS.Stream) (read : ByteArray) : IO ByteArray := do
  let more ← stream.read 65536
  if more.isEmpty then pure read else readRest stream (read ++ more)

/-- a line of the log, without the time -/
def logLine (_ : Nat) (entry : CoroBridge.Level × CoroBridge.Text) : CoroBridge.Text :=
  "[WARN  co_wrapper_codegen] " ++ entry.2 ++ "\n"

def main (args : List String) : IO UInt32 := do
  let args := args.map String.toList
  let input ←
    if (CoroBridge.Cli.readArguments args).isNone then
      readRest (← IO.getStdin) ByteArray.empty
    else pure ByteArray.empty
  let reply := CoroBridge.Cli.run .plain args input.toList (.warnings logLine)
  (← IO.getStdout).putStr (String.ofList reply.output)
  (← IO.getStderr).putStr (String.ofList reply.complaint)
  return UInt32.ofNat reply.status
