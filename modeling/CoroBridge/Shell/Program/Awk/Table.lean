import CoroBridge.Shell.Program.Awk.Notation

/-!
# Command language: the language of `awk`, tables

Values, and the tables that keep them. A table is a row of lists; each index stands in the list that
a number made from its characters chooses, and the index that was used last stands first there. This
gives the order in which a loop meets the indices. Whole numbers have lists of their own, and as long
as nothing but whole numbers was used, the lists of texts follow from those.

* `Awk.Value`               values;
* `Awk.Key`                 what tables are indexed with;
* `Awk.Table.find`          the value at an index, if there is one;
* `Awk.Table.touch`         a table in which an index was used;
* `Awk.Table.put`           a table with a value at an index;
* `Awk.Table.erase`         a table without an index;
* `Awk.Table.indices`       the indices in order.
-/

namespace CoroBridge
namespace Shell
namespace Awk

inductive Value where
  | unset
  | number (x : Float)
  | text (t : Text)
  | given (t : Text)

inductive Key where
  | text (t : Text)
  | whole (n : Int)

def Key.toText : Key → Text
  | text t => t
  | whole n => ofInt n

/-- a table: the values in the lists of their texts, the lists of whole numbers, the number of
values, and whether the lists of texts have their order -/
structure Table where
  texts : Array (List (Text × Value))
  wholes : Array (List Int)
  size : Nat
  ordered : Bool

namespace Table

def firstLists : Nat := 64

def mostInList : Nat := 12

def empty : Table := ⟨Array.replicate firstLists [], Array.replicate firstLists [], 0, false⟩

def hash (t : Text) : Nat :=
  (t.foldl (fun (h : UInt32) c => (h ^^^ UInt32.ofNat c.toNat) * 16777619) 2166136261).toNat

def place (s : Table) (t : Text) : Nat := hash t % s.texts.size

def wholePlace (s : Table) (n : Int) : Nat := (n % (s.wholes.size : Int)).toNat

def find (s : Table) (k : Key) : Option Value :=
  (s.texts[s.place k.toText]?).bind fun ps => ps.lookup k.toText

/-- a table whose lists of texts have their order -/
def order (s : Table) : Table :=
  if s.ordered then s
  else
    let keys := s.wholes.toList.flatten.map ofInt
    let value := fun (t : Text) => (s.find (.text t)).getD .unset
    let texts := keys.foldl (fun (a : Array (List (Text × Value))) t =>
      a.modify (s.place t) ((t, value t) :: ·)) (Array.replicate s.texts.size [])
    { s with texts := texts, ordered := true }

def double (s : Table) : Table :=
  let n := s.texts.size
  let texts := (s.texts ++ Array.replicate n []).mapIdx fun i _ =>
    (s.texts[i % n]?.getD []).filter fun p => hash p.1 % (2 * n) == i
  let wholes := (s.wholes ++ Array.replicate n []).mapIdx fun i _ =>
    (s.wholes[i % n]?.getD []).filter fun k => k % (2 * n : Int) == i
  { s with texts := texts, wholes := wholes }

def grow (s : Table) : Table :=
  let s := { s with size := s.size + 1 }
  if mostInList * s.texts.size < s.size then s.double else s

def toFront (t : Text) (v : Value) (ps : List (Text × Value)) : List (Text × Value) :=
  (t, v) :: ps.filter (·.1 != t)

/-- a table in which a text was used as an index; a value is made where there is none if that is
asked for -/
def touchText (s : Table) (make : Bool) (t : Text) : Table :=
  let s := s.order
  match s.find (.text t) with
  | some v => { s with texts := s.texts.modify (s.place t) (toFront t v) }
  | none =>
    if make then
      let s := s.grow
      { s with texts := s.texts.modify (s.place t) (toFront t .unset) }
    else s

def touch (s : Table) (make : Bool) : Key → Table
  | .text t => s.touchText make t
  | .whole n =>
    let known := (s.wholes[s.wholePlace n]?.getD []).contains n
    let t := ofInt n
    let toFront := fun (s : Table) =>
      { s with wholes := s.wholes.modify (s.wholePlace n) fun ns => n :: ns.erase n }
    if known then toFront s
    else if s.ordered then
      let s := s.touchText make t
      if (s.find (.text t)).isSome then toFront s else s
    else if make then
      let s := s.grow
      toFront { s with texts := s.texts.modify (s.place t) (Table.toFront t .unset) }
    else s

def put (s : Table) (k : Key) (v : Value) : Table :=
  let t := k.toText
  let set := fun (p : Text × Value) => if p.1 = t then (t, v) else p
  { s with texts := s.texts.modify (s.place t) (List.map set) }

def erase (s : Table) (k : Key) : Table :=
  let t := k.toText
  match s.find k with
  | none => s
  | some _ =>
    if s.size ≤ 1 then empty
    else
      { s with
        size := s.size - 1
        texts := s.texts.modify (s.place t) fun ps => ps.filter (·.1 != t)
        wholes := match k with
          | .whole n => s.wholes.modify (s.wholePlace n) fun ns => ns.erase n
          | .text _ => s.wholes.map fun ns => ns.filter fun n => ofInt n != t }

def indices (s : Table) : List Text := s.order.texts.toList.flatten.map Prod.fst

/-- the table of some values, counted from one -/
def ofList (vs : List Value) : Table :=
  (vs.zipIdx 1).foldl (fun s v =>
    let k := Key.whole v.2
    (s.touch true k).put k v.1) empty

end Table
end Awk
end Shell
end CoroBridge
