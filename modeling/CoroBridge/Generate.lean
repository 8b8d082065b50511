import CoroBridge.Block
import CoroBridge.Counterpart
import CoroBridge.Header
import CoroBridge.Run
import CoroBridge.Site

/-!
# Generated files

* `Config`         what a user may choose;
* `counterparts`   the coroutine declarations of a text that can be read;
* `counterpart?`   the first one of a name;
* `bridge`         the block for one site;
* `generate`       the file for a text: the header, then one block for each site, in order;
* `generateFile`   the same after a formatter, with a line break at the end.
-/

namespace CoroBridge

/-- the name that the header gives to the generator, and whether bridges are compared with the
coroutines that the text declares -/
structure Config where
  generator : Text := "co-wrapper"
  crossCheck : Bool := true
  deriving DecidableEq, Repr

/-- a pass over the whole text of a generated file -/
abbrev Formatter := Text → Run Text

def Formatter.unchanged : Formatter := fun code => pure code

/-! ## counterparts -/

/-- the declaration at a coroutine's site, if it can be read -/
def noteCounterpart (s : Site) : Run (Option Decl) := do
  Run.note (.matched (s.text .coroutine))
  match s.decl with
  | .ok d => pure (some d)
  | .error fault =>
    Run.note (.unchecked fault)
    pure none

def counterparts (t : Text) : Run (List Decl) := do
  let found ← (Marker.coroutine.sites t).mapM noteCounterpart
  pure (found.filterMap id)

def counterpart? (known : List Decl) (name : Text) : Option Decl := known.find? (·.name = name)

/-! ## blocks -/

/-- the comparison of a bridge with the first declaration of its coroutine, if one is known -/
def Plan.checkAmong (known : List Decl) (p : Plan) : Except Fault Unit :=
  match counterpart? known p.coroutine with
  | some d => p.checkAgainst d
  | none => .ok ()

def bridge (known : List Decl) (s : Site) : Run Text := do
  Run.note (.matched (s.text .wrapper))
  let d ← Run.ofExcept s.decl
  let p ← Run.ofExcept d.plan
  Run.note (.wrapping d.name p.coroutine d.params.length)
  Run.ofExcept (p.checkAmong known)
  pure p.block

/-- the header and the blocks, with two empty lines before every block -/
def assemble (generator : Text) (blocks : List Text) : Text :=
  header generator ++ blocks.flatMap fun b => ['\n', '\n', '\n'] ++ b

@[simp] theorem assemble_nil (generator : Text) : assemble generator [] = header generator := by
  simp [assemble]

/-- the file for a text, without a line break at its end; the first site that cannot be bridged
ends the run -/
def generate (config : Config) (t : Text) : Run Text := do
  let known ← if config.crossCheck then counterparts t else pure []
  let blocks ← (Marker.wrapper.sites t).mapM (bridge known)
  pure (assemble config.generator blocks)

/-! ## files -/

/-- a text with a line break at its end -/
def endLine (t : Text) : Text := if t.getLast? = some '\n' then t else t ++ ['\n']

/-- the file for a text after a formatter, with a line break at its end -/
def generateFile (config : Config) (formatter : Formatter) (t : Text) : Run Text := do
  let code ← generate config t
  let code ← formatter code
  pure (endLine code)

end CoroBridge
