import CoroBridge.Generate

/-!
# Formatters that are programs

* `Finish`                 what a program leaves behind: its ending, its output and its complaints;
* `Launch`                 a program that the system did not start, or that ran to its end;
* `style`                  the layout that a program is asked for;
* `Formatter.ofLaunch`     the formatter that a program is.
-/

namespace CoroBridge

structure Finish where
  ending : Ending
  output : Bytes
  complaint : Bytes
  deriving DecidableEq, Repr

inductive Launch where
  | failed (fault : SystemFault)
  | finished (finish : Finish)
  deriving DecidableEq, Repr

/-- the layout that a program is asked for: four spaces of indentation, the brace of a function
on a line of its own, includes in the order in which they were written -/
def style : Text :=
  "\x7bIndentWidth: 4, BraceWrapping: \x7bAfterFunction: true\x7d, "
    ++ "BreakBeforeBraces: Custom, SortIncludes: false, MaxEmptyLinesToKeep: 2\x7d"

def styleArgument : Text := "-style=" ++ style

/-- the program that formats unless another one is named -/
def usualProgram : Text := "clang-format"

/-- the text that a finished program has made of the code, or its reason not to -/
def Finish.run (program : Text) (f : Finish) : Run Text :=
  if f.ending = .status 0 then do
    Run.note (.formatted program)
    match Utf8.decode f.output with
    | .ok t => pure t
    | .error fault => Run.fail (.formatter (.output fault))
  else
    Run.fail (.formatter (.exited program f.ending (Utf8.decodeLossy f.complaint).trim))

/-- the formatter that a program is, when `launch` says what comes of starting it on the bytes of
a code: a program that is not there leaves the code as it is -/
def Formatter.ofLaunch (program : Text) (launch : Bytes → Launch) : Formatter := fun code =>
  match launch (Utf8.encode code) with
  | .failed .notFound => do
    Run.note (.unformatted program)
    pure code
  | .failed fault => Run.fail (.system fault)
  | .finished f => f.run program

end CoroBridge
