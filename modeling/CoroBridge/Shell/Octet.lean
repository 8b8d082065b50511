import CoroBridge.Text.Utf8

/-!
# Command language: octets

A command sees bytes, not characters. Inside the command language each byte is therefore taken
for a character of its own, so that a text here holds no character above the 255th.

* `octets`, `bytes`        a byte sequence as such a text, and back;
* `whole?`                 the whole number that a text is in decimal digits;
* `isVariable`             the texts that name variables;
* `octalRun`               the value of the octal digits that a text begins with;
* `digitRun`               the value of the digits in a base that a text begins with;
* `classOf?`               the characters that a named class holds.
-/

namespace CoroBridge
namespace Shell

def octets (b : Bytes) : Text := b.map fun x => Char.ofNat x.toNat

def bytes (t : Text) : Bytes := t.map fun c => UInt8.ofNat c.toNat

def octetsOf (t : Text) : Text := octets (Utf8.encode t)

/-! ## numbers -/

def digitsValue (t : Text) : Nat := t.foldl (fun n c => n * 10 + (c.toNat - 48)) 0

def number? (t : Text) : Option Nat :=
  if t ≠ [] ∧ t.all Char.isDigit then some (digitsValue t) else none

def isBlank (c : Char) : Bool := c == ' ' || c == '\t'

def isSpace (c : Char) : Bool := c == ' ' || (9 ≤ c.toNat && c.toNat ≤ 13)

def strip (t : Text) : Text := ((t.dropWhile isSpace).reverse.dropWhile isSpace).reverse

def whole? (t : Text) : Option Int :=
  match strip t with
  | '-' :: d => (number? d).map fun n => -(n : Int)
  | '+' :: d => (number? d).map Int.ofNat
  | d => (number? d).map Int.ofNat

def ofInt : Int → Text
  | .ofNat n => Text.ofNat n
  | .negSucc n => '-' :: Text.ofNat (n + 1)

def greatest : Nat := 2147483647

def count? (t : Text) : Option Nat :=
  match whole? t with
  | some (.ofNat n) => if n ≤ greatest then some n else none
  | _ => none

def octal? (c : Char) : Option Nat :=
  if '0' ≤ c ∧ c ≤ '7' then some (c.toNat - 48) else none

def octalRun : Nat → Text → Nat × Nat
  | 0, _ => (0, 0)
  | _, [] => (0, 0)
  | n + 1, c :: r =>
    match octal? c with
    | none => (0, 0)
    | some d => (d * Nat.pow 8 (octalRun n r).2 + (octalRun n r).1, (octalRun n r).2 + 1)

/-- the value of a digit in a base up to sixteen -/
def digit? (base : Nat) (c : Char) : Option Nat :=
  let d :=
    if c.isDigit then c.toNat - 48
    else if 'a' ≤ c ∧ c ≤ 'f' then c.toNat - 87
    else if 'A' ≤ c ∧ c ≤ 'F' then c.toNat - 55
    else 16
  if d < base then some d else none

def digitRun (base : Nat) (t : Text) : Nat × Nat :=
  let digits := t.takeWhile fun c => (digit? base c).isSome
  (digits.foldl (fun n c => n * base + (digit? base c).getD 0) 0, digits.length)

def inBase (base n : Nat) : Text := Nat.toDigits base n

/-! ## names and classes -/

def isVariableStart (c : Char) : Bool := c.isAlpha || c == '_'

def isVariableChar (c : Char) : Bool := c.isAlphanum || c == '_'

def isVariable : Text → Bool
  | [] => false
  | c :: r => isVariableStart c && r.all isVariableChar

def isPunctuation (c : Char) : Bool := '!' ≤ c && c ≤ '~' && !c.isAlphanum

/-- the classes of characters that have names -/
def classes : List (Text × (Char → Bool)) :=
  [("alpha", Char.isAlpha), ("digit", Char.isDigit), ("alnum", Char.isAlphanum),
    ("upper", Char.isUpper), ("lower", Char.isLower), ("space", isSpace),
    ("blank", isBlank), ("punct", isPunctuation),
    ("print", fun c => ' ' ≤ c && c ≤ '~'), ("graph", fun c => '!' ≤ c && c ≤ '~'),
    ("cntrl", fun c => c.toNat < 32 || c.toNat == 127),
    ("xdigit", fun c => c.isDigit || ('a' ≤ c && c ≤ 'f') || ('A' ≤ c && c ≤ 'F'))]

def classOf? (name : Text) : Option (Char → Bool) := classes.lookup name

/-- the text before the first place where a word stands, and the text after the word there -/
def cutAt? (w : Text) : Text → Option (Text × Text)
  | [] => if w = [] then some ([], []) else none
  | c :: r =>
    match Text.after? w (c :: r) with
    | some rest => some ([], rest)
    | none => (cutAt? w r).map fun p => (c :: p.1, p.2)

end Shell
end CoroBridge
