import CoroBridge.Fault
import CoroBridge.Param

/-!
# Declarations

* `Decl`             a function's declaration: result type, name and parameters;
* `Param.parseAll`   the parameters of a list of fragments, or the first fragment that is none;
* `Decl.read`        the declaration made of three texts;
* `Decl.listed`, `Decl.stacked`   something written for each parameter, on one line or on several.
-/

namespace CoroBridge

structure Decl where
  result : Text
  name : Text
  params : List Param
  deriving DecidableEq, Repr

/-- the parameters that the fragments declare, or the first fragment that declares none -/
def Param.parseAll : List Text → Except Text (List Param)
  | [] => .ok []
  | f :: fs =>
    match Param.parse? f with
    | none => .error f
    | some p => (Param.parseAll fs).map (p :: ·)

namespace Decl

/-- the declaration with an argument text that is cut at every comma; the text between two
commas has to declare a parameter, also where it is empty -/
def read (result name args : Text) : Except Fault Decl :=
  match Param.parseAll (args.splitOn ',') with
  | .ok params => .ok ⟨result.trim, name.trim, params⟩
  | .error fragment => .error (.malformed name.trim fragment.trim)

/-- something written for each parameter, with a comma and a space between -/
def listed (f : Param → Text) (d : Decl) : Text := List.intercalate [',', ' '] (d.params.map f)

def stacked (f : Param → Text) (d : Decl) : Text := List.intercalate ['\n'] (d.params.map f)

end Decl
end CoroBridge
