import CoroBridge.Text.Basic

/-!
# Likeness

How much two words look alike, by the characters that they share.

* `shared`        the characters of a word that find their like in another one, nearby;
* `ratio`         a quotient of two counts, rounded;
* `jaro`          the Jaro likeness of two words, between zero and one.
-/

namespace CoroBridge

/-- the places of `b` that the characters of `a`, which stand from place `i` on, pair up with: each
takes the first free place with its like that is at most `reach` away -/
def pairing (reach : Nat) (b : Text) (i : Nat) (taken : List Nat) : Text → List (Option Nat)
  | [] => []
  | c :: r =>
    let place := (b.zipIdx).find? fun x =>
      x.1 == c && x.2 ≤ i + reach && i ≤ x.2 + reach && !taken.contains x.2
    match place with
    | some x => some x.2 :: pairing reach b (i + 1) (x.2 :: taken) r
    | none => none :: pairing reach b (i + 1) taken r

/-- the characters of `a` that are paired up, and those of `b`, each in its own order -/
def shared (a b : Text) : Text × Text :=
  let reach := max a.length b.length / 2 - 1
  let places := pairing reach b 0 [] a
  (((a.zip places).filter (·.2.isSome)).map Prod.fst,
    ((b.zipIdx).filter fun x => places.contains (some x.2)).map Prod.fst)

def ratio (m n : Nat) : Float := Float.ofNat m / Float.ofNat n

/-- the Jaro likeness of two words: with `m` shared characters, of which `t` pairs are out of
order by twos, the mean of `m` by either length and of `m - t` by `m`; the sum is taken in this
order, since each step of it is rounded -/
def jaro (a b : Text) : Float :=
  let (x, y) := shared a b
  let m := x.length
  if a = [] ∧ b = [] then 1
  else if m = 0 then 0
  else
    let t := ((x.zip y).filter fun p => p.1 != p.2).length / 2
    (ratio m a.length + ratio m b.length + ratio (m - t) m) / 3

end CoroBridge
