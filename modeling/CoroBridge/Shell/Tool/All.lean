import CoroBridge.Shell.Tool.Checksum
import CoroBridge.Shell.Tool.Columns
import CoroBridge.Shell.Tool.Compare
import CoroBridge.Shell.Tool.Copy
import CoroBridge.Shell.Tool.Diff
import CoroBridge.Shell.Tool.Dump
import CoroBridge.Shell.Tool.Ends
import CoroBridge.Shell.Tool.Facts
import CoroBridge.Shell.Tool.Fill
import CoroBridge.Shell.Tool.Grep
import CoroBridge.Shell.Tool.Join
import CoroBridge.Shell.Tool.Judge
import CoroBridge.Shell.Tool.Make
import CoroBridge.Shell.Tool.Order
import CoroBridge.Shell.Tool.Pass
import CoroBridge.Shell.Tool.Reckon
import CoroBridge.Shell.Tool.Recode
import CoroBridge.Shell.Tool.Sed
import CoroBridge.Shell.Tool.Split
import CoroBridge.Shell.Tool.Tr
import CoroBridge.Shell.Tool.Tree
import CoroBridge.Shell.Tool.Units

/-!
# Command language: all tools

The tools that scripts find by name.

* `plainTools`     the tools that need nothing but a call;
* `tool?`          the tool of a name;
* `rowOf?`         the texts that it writes without reading;
* `paceOf`         how it treats a long input.
-/

namespace CoroBridge
namespace Shell

/-- the tools that notice a blocked output as most tools do -/
def commonTools : List (Text × Tool) :=
  [("true", fun _ => silent 0), ("false", fun _ => silent 1), ("echo", plainEcho),
    ("printf", plainPrintf), ("sleep", sleep), ("head", head), ("tail", tail), ("tac", tac),
    ("nl", nl), ("uniq", uniq), ("cut", cut), ("fold", fold), ("paste", paste), ("seq", seq),
    ("expand", expand), ("unexpand", unexpand), ("basename", basename), ("dirname", dirname),
    ("tr", tr), ("rm", rm), ("rmdir", rmdir), ("mkdir", mkdir), ("touch", touch),
    ("mktemp", mktemp), ("cp", cp), ("mv", mv), ("chmod", chmod),
    ("od", od), ("base64", base64), ("comm", comm)]

def furtherTools : List (Text × Tool) :=
  [("cksum", cksum), ("sum", sum), ("test", judge), ("[", judge), ("fmt", fmt), ("join", join),
    ("split", split), ("numfmt", numfmt), ("iconv", iconv), ("dd", dd), ("printenv", printenv),
    ("whoami", telling "root"), ("arch", telling "x86_64"), ("id", identity), ("uname", uname),
    ("which", which), ("realpath", realpath), ("readlink", readlink), ("stat", stat),
    ("factor", factor), ("tsort", tsort), ("diff", diff), ("mkfifo", mkfifo),
    ("truncate", truncate)]

/-- the tools that notice a blocked output in a way of their own -/
def otherTools : List (Text × Tool) :=
  [("cat", cat.losing catLoss), ("rev", rev.losing revLoss), ("wc", wc.losing (shortLoss 1)),
    ("sort", sort.losing sortLoss), ("grep", grep.losing (lostWith 2)),
    ("egrep", fun c => (grep { c with name := "grep", args := "-E".toList :: c.args })),
    ("fgrep", fun c => (grep { c with name := "grep", args := "-F".toList :: c.args })),
    ("sed", sed.losing sedLoss), ("expr", expr.losing (lostWith 3)), ("tee", tee), ("yes", yes),
    ("ls", ls.losing (lostWith 2)), ("cmp", cmp.losing (lostWith 2))]

def plainTools : List (Text × Tool) :=
  (commonTools ++ furtherTools ++ digestKinds.map fun k => (k.1, digestTool k.2)).map
    (fun t => (t.1, t.2.losing (lostWith 1))) ++ otherTools

def tool? (name : Text) : Option Tool := plainTools.lookup name

def rowOf? (c : Call) : Option (Nat → Option Text) :=
  match String.ofList c.name with
  | "seq" => (seqRow c).toOption
  | "yes" => (yesRow c).toOption
  | _ => none

def paceOf (c : Call) : Pace :=
  match String.ofList c.name with
  | "cat" => if c.args = [] ∨ c.args = [['-']] then ⟨true, true, fun _ => false, 65536⟩
    else Pace.lines
  | "head" => headPace c
  | "sed" => sedPace c
  | "grep" => grepPace c
  | "egrep" => grepPace { c with args := ['-', 'E'] :: c.args }
  | "fgrep" => grepPace { c with args := ['-', 'F'] :: c.args }
  | "tr" => Pace.lines
  | "cut" => Pace.lines
  | "fold" => Pace.lines
  | "expand" => Pace.lines
  | "unexpand" => Pace.lines
  | "nl" => Pace.lines
  | "rev" => Pace.lines
  | "tee" => Pace.lines
  | "dd" => ddPace c
  | _ => Pace.whole

end Shell
end CoroBridge
