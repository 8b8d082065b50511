import CoroBridge.Shell.Stream

/-!
# Command language: variables and complaints

The values that a script keeps, and how it complains.

* `Act.lookup`, `Act.values`   the values of variables;
* `Act.complain`, `Act.fail`   a complaint of the script itself;
* `Act.assign`                 a variable set.
-/

namespace CoroBridge
namespace Shell
namespace Act

/-! ## values -/

def lookup (name : Text) : Act (Option Text) := do
  return ((← get).bindings.lookup name).bind Variable.value

def values : Act Values := do
  return (← get).bindings.filterMap fun p => p.2.value.map fun v => (p.1, v)

def separators : Act Text := do
  return ((← lookup "IFS").getD " \t\n".toList)

/-! ## complaints -/

def complain (command : Text) (what : Text) : Act Unit := do
  let s ← get
  let command := if command = [] then s.about else command
  let who : Text := if command = [] then [] else command ++ ": "
  let t : Text := s.name ++ ": " ++ Text.ofNat s.line ++ ": " ++ who ++ what ++ "\n"
  discard (write 2 t)

def fail {α : Type} (command : Text) (what : Text) : Act α := do
  complain command what
  exit 2

def assign (name value : Text) : Act Unit := do
  let s ← get
  match s.bindings.lookup name with
  | some v =>
    if v.fixed then fail [] (name ++ ": is read only")
    else
      set { s with
        bindings := Shell.put name { v with value := some value } s.bindings
        tracked := if name = "PATH".toList then [] else s.tracked
        optionPlace := if name = "OPTIND".toList then none else s.optionPlace }
  | none =>
    let exported := 'a' ∈ s.options
    set { s with bindings := Shell.put name ⟨some value, exported, false⟩ s.bindings }

end Act
end Shell
end CoroBridge
