import CoroBridge.Plan

/-!
# Blocks

The code that bridges one coroutine: a context structure with one field for each parameter, an
entry point that calls the coroutine with the fields, and the bridge, which calls the coroutine
itself if it already runs in one and otherwise fills a context and polls until the entry point is
through.

* `Plan.fields`       the field declarations of the context;
* `Plan.entryArgs`    what the entry point passes to the coroutine;
* `Plan.directArgs`   what the bridge passes to the coroutine;
* `Plan.inits`        what the bridge puts into the fields of the context;
* `Plan.lines`, `Plan.block`   the code.
-/

namespace CoroBridge
namespace Plan

def params (p : Plan) : List Param := p.wrapper.params

/-- the name of the context structure -/
def context (p : Plan) : Text := camel p.coroutine

def entry (p : Plan) : Text := p.coroutine ++ "_entry"

def fields (p : Plan) : List Text := p.params.map Param.decl

/-- what the entry point passes to the coroutine: the fields of the context -/
def entryArgs (p : Plan) : List Text := p.params.map fun q => "s->" ++ q.name

/-- what the bridge passes to the coroutine: its own parameters -/
def directArgs (p : Plan) : List Text := p.params.map Param.name

/-- what the bridge puts into the poll state of the context -/
def pollInits (p : Plan) : List (Text × Text) :=
  [("poll_state.bs", p.owner), ("poll_state.in_progress", "true")]

/-- what the bridge puts into the other fields of the context: its parameters -/
def paramInits (p : Plan) : List (Text × Text) := p.params.map fun q => (q.name, q.name)

/-- the initialisers of the context, in order -/
def inits (p : Plan) : List (Text × Text) := p.pollInits ++ p.paramInits

def initLine (i : Text × Text) : Text := "            ." ++ i.1 ++ " = " ++ i.2 ++ ","

def fieldLine (decl : Text) : Text := "    " ++ decl ++ ";"

/-- texts with a comma and a space between -/
def commas (ts : List Text) : Text := List.intercalate [',', ' '] ts

def signature (p : Plan) : Text :=
  statusType ++ " " ++ p.wrapper.name ++ "(" ++ commas p.fields ++ ")"

/-! ## the lines of a block -/

def titleLines (p : Plan) : List Text :=
  ["/*",
   " * Wrappers for " ++ p.coroutine,
   " */"]

def contextHead (p : Plan) : List Text :=
  ["typedef struct " ++ p.context ++ " \x7b",
   "    BdrvPollCo poll_state;"]

def contextLines (p : Plan) : List Text :=
  p.contextHead ++ p.fields.map fieldLine ++ ["\x7d " ++ p.context ++ ";"]

def entryLines (p : Plan) : List Text :=
  ["static void coroutine_fn " ++ p.entry ++ "(void *opaque)",
   "\x7b",
   "    " ++ p.context ++ " *s = opaque;",
   "",
   "    s->poll_state.ret = " ++ p.coroutine ++ "(" ++ commas p.entryArgs ++ ");",
   "    s->poll_state.in_progress = false;",
   "",
   "    bdrv_poll_co__on_exit();",
   "\x7d"]

def bridgeHead (p : Plan) : List Text :=
  [p.signature,
   "\x7b",
   "    if (qemu_in_coroutine()) \x7b",
   "        return " ++ p.coroutine ++ "(" ++ commas p.directArgs ++ ");",
   "    \x7d else \x7b",
   "        " ++ p.context ++ " s = \x7b"]

/-- the lines of the bridge after the initialisers of the context -/
def bridgeTail (p : Plan) : List Text :=
  ["        \x7d;",
   "",
   "        s.poll_state.co = qemu_coroutine_create(" ++ p.entry ++ ", &s);",
   "",
   "        return bdrv_poll_co(&s.poll_state);",
   "    \x7d",
   "\x7d"]

def bridgeLines (p : Plan) : List Text :=
  p.bridgeHead ++ p.pollInits.map initLine ++ [[]] ++ p.paramInits.map initLine ++ p.bridgeTail

def lines (p : Plan) : List Text :=
  p.titleLines ++ [[]] ++ p.contextLines ++ [[]] ++ p.entryLines ++ [[]] ++ p.bridgeLines

theorem length_lines (p : Plan) : p.lines.length = 34 + 2 * p.params.length := by
  simp [lines, titleLines, contextHead, contextLines, entryLines, bridgeHead, bridgeTail,
    bridgeLines, fields, pollInits, paramInits]
  omega

/-- the code that bridges one coroutine, without a line break at its end -/
def block (p : Plan) : Text := List.intercalate ['\n'] p.lines

end Plan

def Decl.block (d : Decl) : Except Fault Text := d.plan.map Plan.block

end CoroBridge
