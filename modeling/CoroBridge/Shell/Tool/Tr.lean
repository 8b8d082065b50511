import CoroBridge.Shell.Tool.Options

/-!
# Command language: characters replaced

The tool `tr` replaces the characters of one set by those of another one, leaves them out, or puts
runs of them together.

* `SetItem`          an item of a set: characters, a class, or one that is repeated;
* `SetFault`         the reasons why texts are no sets;
* `setItems`         the items that a text describes;
* `filled`           a set's characters, with repeated ones filled up to a length;
* `checkTranslation` whether the characters of one set can be replaced by those of another one;
* `tr`               the tool.
-/

namespace CoroBridge
namespace Shell

inductive SetItem where
  | chars (t : Text)
  | named (name : Text)
  | alike (c : Char)
  | repeated (c : Char) (times : Option Nat)
  deriving DecidableEq, Repr

inductive SetFault where
  | noClass (name : Text)
  | emptyClass
  | emptyAlike
  | longAlike (t : Text)
  | reversed (a b : Char)
  | badCount (t : Text)
  | openInFirst
  | openTwice
  | openAlone
  | alikeInSecond
  | classInSecond
  | misaligned
  | emptySecond
  | classAtEnd
  | manyForOthers
  deriving DecidableEq, Repr

def shownChar (c : Char) : Text := if isPrintable c then [c] else '\\' :: octalDigits c

def SetFault.message : SetFault → Text
  | noClass name => "invalid character class " ++ quoted name
  | emptyClass => "missing character class name '[::]'"
  | emptyAlike => "missing equivalence class character '[==]'"
  | longAlike t => t ++ ": equivalence class operand must be a single character"
  | reversed a b =>
    "range-endpoints of " ++ singleQuoted (shownChar a ++ '-' :: shownChar b)
      ++ " are in reverse collating sequence order"
  | badCount t => "invalid repeat count " ++ quoted t ++ " in [c*n] construct"
  | openInFirst => "the [c*] repeat construct may not appear in string1"
  | openTwice => "only one [c*] repeat construct may appear in string2"
  | openAlone => "the [c*] construct may appear in string2 only when translating"
  | alikeInSecond => "[=c=] expressions may not appear in string2 when translating"
  | classInSecond =>
    "when translating, the only character classes that may appear in\n"
      ++ "string2 are 'upper' and 'lower'"
  | misaligned => "misaligned [:upper:] and/or [:lower:] construct"
  | emptySecond => "when not truncating set1, string2 must be non-empty"
  | classAtEnd =>
    "when translating with string1 longer than string2,\n"
      ++ "the latter string must not end with a character class"
  | manyForOthers =>
    "when translating with complemented character classes,\n"
      ++ "string2 must map all characters in the domain to one"

def allOctets : Text := (List.range 256).map Char.ofNat

/-! ## reading -/

/-- the characters that a letter after a backslash stands for -/
def letterEscape? : Char → Option Char
  | 'a' => some '\x07'
  | 'b' => some '\x08'
  | 'f' => some '\x0c'
  | 'n' => some '\n'
  | 'r' => some '\r'
  | 't' => some '\t'
  | 'v' => some '\x0b'
  | _ => none

/-- the value of the octal digits that a text begins with, at most three of them and none too many
for an octet, and their number -/
def octalEscape (t : Text) : Nat × Nat :=
  let (value, digits) := octalRun 3 t
  if value < 256 then (value, digits) else octalRun 2 t

/-- a text with its escapes replaced, each character with whether it was one, when `skip` more
characters belong to the last one -/
def unescaped : Nat → Text → List (Char × Bool)
  | _, [] => []
  | skip + 1, _ :: r => unescaped skip r
  | 0, '\\' :: c :: r =>
    match letterEscape? c with
    | some d => (d, true) :: unescaped 1 (c :: r)
    | none =>
      let (value, digits) := octalEscape (c :: r)
      if digits = 0 then (c, true) :: unescaped 1 (c :: r)
      else (Char.ofNat value, true) :: unescaped digits (c :: r)
  | 0, c :: r => (c, false) :: unescaped 0 r

/-- the warnings about the escapes of a text, when `skip` more characters belong to the last one -/
def escapeWarnings : Nat → Text → List Text
  | _, [] => []
  | skip + 1, _ :: r => escapeWarnings skip r
  | 0, ['\\'] => ["warning: an unescaped backslash at end of string is not portable"]
  | 0, '\\' :: c :: r =>
    let (value, digits) := octalRun 3 (c :: r)
    let rest := escapeWarnings (max 1 (octalEscape (c :: r)).2) (c :: r)
    if value < 256 then rest
    else
      let d := (c :: r).take digits
      ("warning: the ambiguous octal escape \\" ++ d ++ " is being\n\tinterpreted as the 2-byte "
        ++ "sequence \\0" ++ d.take 2 ++ ", " ++ d.drop 2) :: rest
  | 0, _ :: r => escapeWarnings 0 r

def charsBetween (a b : Char) : Text :=
  (List.range (b.toNat + 1 - a.toNat)).map fun i => Char.ofNat (a.toNat + i)

def setItems : Nat → List (Char × Bool) → Except SetFault (List SetItem)
  | _, [] => .ok []
  | skip + 1, _ :: r => setItems skip r
  | 0, (c, escaped) :: r =>
    let next := fun (k : Nat) (i : SetItem) => (setItems k r).map (i :: ·)
    let single : Unit → Except SetFault (List SetItem) := fun _ =>
      match r with
      | ('-', false) :: (d, _) :: _ =>
        if d < c then .error (.reversed c d) else next 2 (.chars (charsBetween c d))
      | _ => next 0 (.chars [c])
    let t := r.map Prod.fst
    match c, escaped, t with
    | '[', false, ':' :: t' =>
      match cutAt? ":]" t' with
      | some ([], _) => .error .emptyClass
      | some (name, _) =>
        if (classOf? name).isSome then next (name.length + 3) (.named name)
        else if t'.head? = some '*' then single ()
        else .error (.noClass name)
      | none => single ()
    | '[', false, '=' :: t' =>
      match cutAt? "=]" t' with
      | some ([], _) => .error .emptyAlike
      | some ([d], _) => next 4 (.alike d)
      | some (name, _) => if t'.head? = some '*' then single () else .error (.longAlike name)
      | none => single ()
    | '[', false, d :: '*' :: t' =>
      match cutAt? "]" t' with
      | none => single ()
      | some (count, _) =>
        let n :=
          if count.head? = some '0' ∧ count.all (fun c => (octal? c).isSome) then
            some (digitRun 8 count).1
          else if count = [] then some 0
          else number? count
        match n with
        | none => .error (.badCount count)
        | some n => next (count.length + 3) (.repeated d (if n = 0 then none else some n))
    | _, _, _ => single ()

/-! ## sets -/

/-- the characters of an item, when the items before it and after it leave `room` -/
def SetItem.expand (room : Nat) : SetItem → Text
  | .chars t => t
  | .named name => allOctets.filter ((classOf? name).getD fun _ => false)
  | .alike c => [c]
  | .repeated c times => List.replicate (times.getD room) c

def filled (length : Nat) (is : List SetItem) : Text :=
  let fixed := (is.map fun i => (i.expand 0).length).foldl (· + ·) 0
  is.flatMap (SetItem.expand (length - fixed))

def SetItem.isOpen (i : SetItem) : Bool := i matches .repeated _ none

def SetItem.isCase : SetItem → Bool
  | .named name => name == "upper".toList || name == "lower".toList
  | _ => false

def SetItem.isNamed (i : SetItem) : Bool := i matches .named _

def starts (length : Nat) (is : List SetItem) : List (SetItem × Nat) :=
  let fixed := (is.map fun i => (i.expand 0).length).foldl (· + ·) 0
  (is.foldl (fun (r : List (SetItem × Nat) × Nat) i =>
    (r.1 ++ [(i, r.2)], r.2 + (i.expand (length - fixed)).length)) ([], 0)).1

def checkTranslation (others cut : Bool) (a b : List SetItem) (n : Nat) : Except SetFault Unit := do
  let second := filled n b
  if b.any (· matches .alike _) then .error .alikeInSecond
  else if b.any fun i => i.isNamed && !i.isCase then .error .classInSecond
  else if !others ∧ (starts n b).any (fun s => s.1.isCase
      && !(starts 0 a).any fun r => r.1.isCase && r.2 == s.2) then
    .error .misaligned
  else if second.length < n ∧ !cut then
    if second = [] then .error .emptySecond
    else if b.getLast?.any SetItem.isNamed then .error .classAtEnd
  if others ∧ a.any SetItem.isNamed ∧ second.any (fun c => second.head? ≠ some c) then
    .error .manyForOthers

def squeeze (has : Char → Bool) : Text → Text
  | c :: d :: r => if c = d ∧ has c then squeeze has (d :: r) else c :: squeeze has (d :: r)
  | t => t

/-- the character at a character's place in another set, whose last one stands for all further
places; the last place of a character counts -/
def replaced (source target : Text) (c : Char) : Char :=
  match (source.zipIdx.reverse.find? fun p => p.1 == c) with
  | some (_, i) => (target[i]?).getD (target.getLast?.getD c)
  | none => c

/-! ## tr -/

def trOptions : OptionTable :=
  { OptionTable.of "cCdst" [] [("complement", 'c'), ("delete", 'd'), ("squeeze-repeats", 's'),
      ("truncate-set1", 't')]
    with ordered := true }

def tr : Tool := fun c =>
  c.withOptions trOptions 1 fun o =>
    let others := o.has 'c' || o.has 'C'
    let deletes := o.has 'd'
    let squeezes := o.has 's'
    match o.operands with
    | [] => c.misused 1 "missing operand"
    | s :: rest =>
      let two := if deletes then squeezes else !squeezes
      if rest = [] ∧ two then
        c.misused 1 ("missing operand after " ++ quoted s ++ (if deletes then
            "\nTwo strings must be given when both deleting and squeezing repeats."
          else "\nTwo strings must be given when translating."))
      else if deletes ∧ !squeezes ∧ rest ≠ [] then
        c.misused 1 ("extra operand " ++ quoted (rest.headD []) ++ (if rest.length = 1 then
          "\nOnly one string may be given when deleting without squeezing repeats." else ""))
      else if rest.length > 1 then c.misused 1 ("extra operand " ++ quoted (rest.getD 1 []))
      else
        let warnings := (o.operands.flatMap (escapeWarnings 0)).flatMap c.complaint
        let translating := rest ≠ [] ∧ !deletes
        let sets := do
          let a ← setItems 0 (unescaped 0 s)
          let b ← setItems 0 (unescaped 0 (rest.headD []))
          if a.any SetItem.isOpen then .error .openInFirst
          let first := if others then allOctets.filter (!(filled 0 a).contains ·) else filled 0 a
          if (b.filter SetItem.isOpen).length > 1 then .error .openTwice
          if translating then checkTranslation others (o.has 't') a b first.length
          else if b.any SetItem.isOpen then .error .openAlone
          .ok (first, filled first.length b)
        match sets with
        | .error f => ⟨none, [(.complaint, warnings ++ c.complaint f.message)], [], 1⟩
        | .ok (first, second) =>
          match c.source with
          | .error f =>
            ⟨none, [(.complaint, warnings ++ c.complaint ("read error: " ++ f.message))], [], 1⟩
          | .ok t =>
            let t := if deletes then t.filter (!first.contains ·) else t
            let source := if o.has 't' then first.take second.length else first
            let t := if translating then t.map (replaced source second) else t
            let t :=
              if squeezes then squeeze (if rest = [] then first else second).contains t else t
            ⟨some [], [(.complaint, warnings), (.output, t)], [], 0⟩

end Shell
end CoroBridge
