import CoroBridge.Decl

/-!
# Plans

* `Plan`         a declaration that can be bridged, and what its bridge is made of;
* `nameBreach?`  the first parameter name that the generated code could not carry;
* `Decl.plan?`   the plan for a declaration, or the first rule that it breaks;
* `Decl.plan`    the same, as a step of a run.
-/

namespace CoroBridge

/-- a declaration with the name of its coroutine, the kind of its first parameter and the name of
that parameter -/
structure Plan where
  wrapper : Decl
  coroutine : Text
  handle : Handle
  subject : Text
  deriving DecidableEq, Repr

def Plan.owner (p : Plan) : Text := p.handle.owner p.subject

/-- the names that the generated code declares itself -/
def reservedNames : List Text := ["s", "poll_state"]

/-- the first of the names that is reserved or stands among the ones before it, `seen` included -/
def nameBreach? (seen : List Text) : List Text → Option Breach
  | [] => none
  | n :: ns =>
    if n ∈ reservedNames then some (.reserved n)
    else if n ∈ seen then some (.repeated n)
    else nameBreach? (n :: seen) ns

@[simp] theorem nameBreach?_nil (seen : List Text) : nameBreach? seen [] = none := rfl

namespace Decl

/-- the plan for a declaration, or the first rule that it breaks: the result type, the stem of the
name, the first parameter, then the names of the parameters from left to right -/
def plan? (d : Decl) : Except Breach Plan :=
  if d.result ≠ statusType then .error (.resultType d.result)
  else if coroutineStem.isPrefixOf d.name then .error .namesCoroutine
  else
    match coroutineName? d.name, d.params with
    | none, _ => .error .namesNoWrapper
    | some _, [] => .error .noHandle
    | some coroutine, p :: _ =>
      match Handle.ofType? p.ty with
      | none => .error (.handleType p.ty)
      | some handle =>
        match nameBreach? [] (d.params.map Param.name) with
        | some breach => .error breach
        | none => .ok ⟨d, coroutine, handle, p.name⟩

def plan (d : Decl) : Except Fault Plan := d.plan?.mapError (.unsupported d.name)

end Decl
end CoroBridge
