import CoroBridge.Shell.Octet

/-!
# Command language: quoted texts

How complaints show texts, so that every character of them can be seen.

* `singleQuoted`      a text between quotes as it is;
* `quoted`            a text between quotes, with escapes;
* `shownName`         a name as a script would write it, between quotes only where it has to;
* `shownAlways`       a name as a script would write it, between quotes.
-/

namespace CoroBridge
namespace Shell

def singleQuoted (t : Text) : Text := "'" ++ t ++ "'"

def isPrintable (c : Char) : Bool := ' ' ≤ c && c ≤ '~'

def octalDigits (c : Char) : Text :=
  let d := inBase 8 c.toNat
  List.replicate (3 - d.length) '0' ++ d

/-- the letter that a character which is not seen has after a backslash -/
def escapeLetter? : Char → Option Char
  | '\x07' => some 'a'
  | '\x08' => some 'b'
  | '\t' => some 't'
  | '\n' => some 'n'
  | '\x0b' => some 'v'
  | '\x0c' => some 'f'
  | '\r' => some 'r'
  | _ => none

/-- the escape of a character that is not seen -/
def escapeOf? (c : Char) : Option Text :=
  match escapeLetter? c with
  | some l => some ['\\', l]
  | none => if isPrintable c then none else some ('\\' :: octalDigits c)

def quoted (t : Text) : Text :=
  singleQuoted (t.flatMap fun c =>
    if c = '\\' ∨ c = '\x27' then ['\\', c] else (escapeOf? c).getD [c])

/-! ## names -/

def isSpecialIn (alone front : Bool) (c : Char) : Bool :=
  " !\"$&()*;<=>[^`|?\\'".toList.contains c || (front && (c == '#' || c == '~'))
    || (alone && (c == '\x7b' || c == '\x7d')) || (escapeOf? c).isSome

def needsQuotes : Text → Bool
  | [] => true
  | c :: r => isSpecialIn (r == []) true c || r.any (isSpecialIn false false)

def isPlainIn (front : Bool) (c : Char) : Bool :=
  c.isAlphanum || "%+,-./:]_ '".toList.contains c || (front && (c == '#' || c == '~'))

/-- the characters of a name between single quotes; `escaping` tells that an escape was the last
one -/
def shownFrom (escaping : Bool) : Text → Text
  | [] => []
  | c :: r =>
    match escapeOf? c with
    | some e => (if escaping then e else "'$'" ++ e) ++ shownFrom true r
    | none =>
      (if escaping then "''".toList else []) ++ (if c = '\x27' then "'\\''".toList else [c])
        ++ shownFrom false r

def shownAlways (t : Text) : Text :=
  let plain := match t with
    | [] => true
    | c :: r => isPlainIn true c && r.all (isPlainIn false)
  if plain && t.contains '\x27' then "\"" ++ t ++ "\"" else singleQuoted (shownFrom false t)

def shownName (t : Text) : Text := if needsQuotes t then shownAlways t else t

end Shell
end CoroBridge
