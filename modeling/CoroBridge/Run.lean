import CoroBridge.Fault

/-!
# Runs

What a run leaves behind: the messages that it logged, in order, and its result or the fault that
ended it.

* `Event`           what is worth a message; `Event.level` and `Event.message` say how it is logged;
* `Run α`           the events of a run and its outcome;
* `Run.log`         the messages of a run, in order;
* `Run.note`        the run that logs one event;
* `Run.ofExcept`    the run that logs nothing;
* `Run.bind`        one run after another: nothing is logged after a fault.
-/

namespace CoroBridge

/-! ## events -/

inductive Level where
  | trace
  | debug
  | warn
  deriving DecidableEq, Repr

/-- what is worth a message: a statement was found, a declaration was planned, a coroutine's
declaration cannot be used, a formatter is missing, or it has done its work -/
inductive Event where
  | matched (span : Text)
  | wrapping (wrapper coroutine : Text) (params : Nat)
  | unchecked (fault : Fault)
  | unformatted (program : Text)
  | formatted (program : Text)
  deriving DecidableEq, Repr

def Event.level : Event → Level
  | matched _ => .trace
  | wrapping _ _ _ => .debug
  | unchecked _ => .warn
  | unformatted _ => .debug
  | formatted _ => .debug

def Event.message : Event → Text
  | matched span => "matched declaration: " ++ span
  | wrapping wrapper coroutine params =>
    "wrapping " ++ wrapper ++ " around " ++ coroutine ++ " (" ++ Text.ofNat params
      ++ " parameters)"
  | unchecked fault => "not cross-checking against coroutine: " ++ fault.message
  | unformatted program => program ++ " not found, leaving output unformatted"
  | formatted program => "formatted output with " ++ program

def Event.entry (e : Event) : Level × Text := (e.level, e.message)

/-! ## runs -/

/-- the events of a run, and its result or the fault that ended it -/
structure Run (α : Type) where
  events : List Event
  outcome : Except Fault α

namespace Run
variable {α β : Type}

def log (x : Run α) : List (Level × Text) := x.events.map Event.entry

def pure (a : α) : Run α := ⟨[], .ok a⟩

def fail (fault : Fault) : Run α := ⟨[], .error fault⟩

def note (event : Event) : Run Unit := ⟨[event], .ok ()⟩

/-- the run that logs nothing -/
def ofExcept (x : Except Fault α) : Run α := ⟨[], x⟩

/-- one run after another, which does not begin if the first one ends with a fault -/
def bind (x : Run α) (f : α → Run β) : Run β :=
  match x.outcome with
  | .ok a =>
    let y := f a
    ⟨x.events ++ y.events, y.outcome⟩
  | .error fault => ⟨x.events, .error fault⟩

instance : Monad Run where
  pure := pure
  bind := bind

instance : LawfulMonad Run := LawfulMonad.mk' Run
  (by rintro α ⟨es, _ | a⟩ <;> simp [Functor.map, bind, pure])
  (by intro α β a f; simp [Bind.bind, Pure.pure, bind, pure])
  (by
    rintro α β γ ⟨es, _ | a⟩ f g
    · rfl
    · simp only [Bind.bind, bind]
      cases (f a).outcome <;> simp [List.append_assoc])

theorem bind_of_ok {x : Run α} {a : α} (h : x.outcome = .ok a) (f : α → Run β) :
    x >>= f = ⟨x.events ++ (f a).events, (f a).outcome⟩ := by
  simp only [Bind.bind, bind, h]

theorem bind_of_error {x : Run α} {fault : Fault} (h : x.outcome = .error fault)
    (f : α → Run β) : x >>= f = ⟨x.events, .error fault⟩ := by
  simp only [Bind.bind, bind, h]

theorem ofExcept_ok_bind (a : α) (f : α → Run β) : ofExcept (.ok a) >>= f = f a := by
  simp [Bind.bind, bind, ofExcept]

end Run
end CoroBridge
