import CoroBridge.Shell.Octet

/-!
# Command language: patterns

Patterns name sets of texts: a question mark stands for any character, an asterisk for any
characters, and a list in brackets for one of its members.

* `Members`           the characters of a bracket list;
* `Glob`, `Glob.of`   a pattern, piece by piece, and how characters are read as one;
* `cuts`              every way to cut a text in two;
* `rests`             what a pattern leaves of a text that begins with a match;
* `accepts`           whether a pattern matches a whole text;
* `trim`              a text without a match at one of its ends.
-/

namespace CoroBridge
namespace Shell

/-! ## bracket lists -/

structure Members where
  excluded : Bool
  ranges : List (Char × Char)
  named : List Text

def Members.has (m : Members) (c : Char) : Bool :=
  (m.ranges.any (fun r => r.1 ≤ c && c ≤ r.2)
    || m.named.any (fun n => ((classOf? n).map (· c)).getD false)) != m.excluded

/-- the members that a list goes on with up to its closing bracket, and what follows; `skip` more
characters belong to what was read last, and a bracket at the beginning is a member -/
def membersFrom (m : Members) (first : Bool) : Nat → Text → Option (Members × Text)
  | _, [] => none
  | skip + 1, _ :: r => membersFrom m first skip r
  | 0, c :: r =>
    if c = ']' ∧ !first then some (m, r)
    else
      match c, r with
      | '[', ':' :: r' =>
        match cutAt? ":]" r' with
        | some (name, _) =>
          membersFrom { m with named := name :: m.named } false (name.length + 3) r
        | none => membersFrom { m with ranges := (c, c) :: m.ranges } false 0 r
      | _, '-' :: d :: _ =>
        if d = ']' then membersFrom { m with ranges := (c, c) :: m.ranges } false 0 r
        else membersFrom { m with ranges := (c, d) :: m.ranges } false 2 r
      | _, _ => membersFrom { m with ranges := (c, c) :: m.ranges } false 0 r

/-- the bracket list that a text begins with, after its opening bracket, and what follows; `no` is
the character that excludes the members -/
def members? (no : List Char) : Text → Option (Members × Text)
  | [] => none
  | c :: r =>
    if c ∈ no then membersFrom ⟨true, [], []⟩ true 0 r
    else membersFrom ⟨false, [], []⟩ true 0 (c :: r)

/-! ## patterns -/

inductive Glob where
  | char (c : Char)
  | one
  | many
  | among (members : Members)

def Glob.of : Nat → List (Char × Bool) → List Glob
  | _, [] => []
  | skip + 1, _ :: r => of skip r
  | 0, (c, literal) :: r =>
    if literal then char c :: of 0 r
    else
      match c, r with
      | '?', _ => one :: of 0 r
      | '*', _ => many :: of 0 r
      | '\\', (d, _) :: _ => char d :: of 1 r
      | '[', _ =>
        match members? ['!', '^'] (r.map Prod.fst) with
        | some (m, rest) => among m :: of (r.length - rest.length) r
        | none => char c :: of 0 r
      | _, _ => char c :: of 0 r

def Glob.holds (g : Glob) (c : Char) : Bool :=
  match g with
  | char d => c == d
  | one => true
  | many => true
  | among m => m.has c

def cuts : Text → List (Text × Text)
  | [] => [([], [])]
  | c :: r => ([], c :: r) :: (cuts r).map fun p => (c :: p.1, p.2)

def rests : List Glob → Text → List Text
  | [], t => [t]
  | .many :: ps, t => (cuts t).flatMap fun p => rests ps p.2
  | p :: ps, t =>
    match t with
    | [] => []
    | c :: r => if p.holds c then rests ps r else []

def accepts (ps : List Glob) (t : Text) : Bool := (rests ps t).any (· == [])

@[simp] theorem rests_nil (t : Text) : rests [] t = [t] := rfl

theorem accepts_nil (t : Text) : accepts [] t = (t == []) := by
  simp [accepts]

def prefer (longer : Bool) (a b : Text) : Text :=
  if longer then (if a.length < b.length then b else a)
  else if b.length < a.length then b else a

def trim (atEnd longest : Bool) (ps : List Glob) (t : Text) : Text :=
  let kept :=
    if atEnd then ((cuts t).filter fun p => accepts ps p.2).map Prod.fst
    else rests ps t
  match kept with
  | [] => t
  | k :: ks => ks.foldl (prefer !longest) k

end Shell
end CoroBridge
