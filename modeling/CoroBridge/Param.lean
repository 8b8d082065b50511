import CoroBridge.Name
import CoroBridge.Text.Blank

/-!
# Parameters

* `Param`         a parameter as declared: its whole text, the type part of it and its name;
* `splitName`     a text cut after its last space or star;
* `Param.parse?`  the parameter that a fragment of an argument list declares.
-/

namespace CoroBridge

/-- a declared parameter: `decl` is its text on one line, which `ty` and `name` make up -/
structure Param where
  decl : Text
  ty : Text
  name : Text
  deriving DecidableEq, Repr

/-- a space or a star, after which the name of a parameter may begin -/
def endsType (c : Char) : Bool := c == ' ' || c == '*'

/-- a text cut after its last space or star -/
def splitName (t : Text) : Text × Text :=
  ((t.reverse.dropWhile (!endsType ·)).reverse, (t.reverse.takeWhile (!endsType ·)).reverse)

@[simp] theorem splitName_nil : splitName [] = ([], []) := rfl

theorem splitName_append (t : Text) : (splitName t).1 ++ (splitName t).2 = t := by
  simp [splitName, ← List.reverse_append]

/-- the parameter that a fragment declares: blanks at the ends do not count and a run of blanks
is one space; what stands after the last space or star is the name, and neither part may be
missing -/
def Param.parse? (fragment : Text) : Option Param :=
  let decl := fragment.trim.squeeze
  let (ty, name) := splitName decl
  if ty ≠ [] ∧ isName name then some ⟨decl, ty, name⟩ else none

end CoroBridge
