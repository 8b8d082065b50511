import CoroBridge.Shell.Tool.Digest
import CoroBridge.Shell.Tool.Options

/-!
# Command language: checksums

Tools that write numbers which stand for whole files, and that compare them.

* `cksum`, `sum`         short sums, with the lengths of the files;
* `DigestKind`           a digest with its name and length;
* `digestTool`           a tool that writes digests, or reads them and checks the files.
-/

namespace CoroBridge
namespace Shell

structure DigestKind where
  name : Text
  size : Nat
  of : Text → Text

def digestKinds : List (Text × DigestKind) :=
  [("md5sum", ⟨"MD5", 16, Digest.md5⟩), ("sha1sum", ⟨"SHA1", 20, Digest.sha1⟩),
    ("sha224sum", ⟨"SHA224", 28, Digest.sha224⟩), ("sha256sum", ⟨"SHA256", 32, Digest.sha256⟩),
    ("sha384sum", ⟨"SHA384", 48, Digest.sha384⟩), ("sha512sum", ⟨"SHA512", 64, Digest.sha512⟩)]

/-- a name with escapes for what would end its line -/
def escapedName (t : Text) : Text :=
  t.flatMap fun c =>
    if c = '\\' then ['\\', '\\'] else if c = '\n' then ['\\', 'n']
    else if c = '\r' then ['\\', 'r'] else [c]

def unescapedName : Text → Text
  | '\\' :: 'n' :: r => '\n' :: unescapedName r
  | '\\' :: 'r' :: r => '\r' :: unescapedName r
  | '\\' :: '\\' :: r => '\\' :: unescapedName r
  | c :: r => c :: unescapedName r
  | [] => []

/-- the line that tells of the digest of a file -/
def digestLine (k : DigestKind) (tagged binary zero : Bool) (name t : Text) : Text :=
  let shown := if zero then name else escapedName name
  let front : Text := if shown = name then [] else ['\\']
  let hex := Digest.inHex (k.of t)
  let line := if tagged then k.name ++ " (" ++ shown ++ ") = " ++ hex
    else hex ++ ' ' :: (if binary then '*' else ' ') :: shown
  front ++ line ++ [if zero then '\x00' else '\n']

/-- the digest and the name that a line tells of -/
def digestOfLine? (k : DigestKind) (l : Text) : Option (Text × Text) :=
  let (escaped, l) := match l with
    | '\\' :: r => (true, r)
    | r => (false, r)
  let name := fun (t : Text) => if escaped then unescapedName t else t
  let isHex := fun (t : Text) => t.length == 2 * k.size && t.all fun c => (digit? 16 c).isSome
  match Text.after? (k.name ++ " (") l with
  | some r =>
    match cutAt? ") = " r with
    | some (file, hex) => if isHex hex then some (hex, name file) else none
    | none => none
  | none =>
    let hex := l.take (2 * k.size)
    match l.drop (2 * k.size) with
    | ' ' :: m :: file =>
      if isHex hex ∧ (m = ' ' ∨ m = '*') ∧ file ≠ [] then some (hex, name file) else none
    | _ => none

def counted (n : Nat) (one many : Text) : Text :=
  Text.ofNat n ++ ' ' :: (if n = 1 then one else many)

/-- the digests in a list checked against the files -/
def checkList (c : Call) (o : Options) (k : DigestKind) (list t : Text) :
    List (Stream × Text) × Bool :=
  let lines := (linesOf t).filter fun l => l.head? != some '#'
  let entries := lines.map (digestOfLine? k)
  let shown : Text := if list = ['-'] then "'standard input'" else shownName list
  if entries.all Option.isNone then
    ([(.complaint, c.complaint (shown ++ ": no properly formatted checksum lines found"))], true)
  else
    let results := (entries.filterMap id).map fun (e : Text × Text) =>
      (e.2, match c.files.read e.2 with
        | .error f => Except.error f
        | .ok t => .ok (Digest.inHex (k.of t) == e.1.map Char.toLower))
    let told := results.flatMap fun (r : Text × Except ReadFault Bool) =>
      let name := escapedName r.1
      match r.2 with
      | .error f =>
        (Stream.complaint, c.complaint (shownName r.1 ++ ": " ++ f.reason.message))
          :: (if o.has 'S' then [] else [(.output, name ++ ": FAILED open or read\n")])
      | .ok true => if o.has 'S' || o.has 'q' then [] else [(.output, name ++ ": OK\n")]
      | .ok false => if o.has 'S' then [] else [(.output, name ++ ": FAILED\n")]
    let bad := (entries.filter Option.isNone).length
    let unread := (results.filter fun r => !r.2.isOk).length
    let wrong := (results.filter fun r => r.2.toOption == some false).length
    let warn := fun (n : Nat) (what : Text) =>
      if n = 0 ∨ o.has 'S' then []
      else [(Stream.complaint, c.complaint ("WARNING: " ++ what))]
    (told ++ warn bad (counted bad "line is" "lines are" ++ " improperly formatted")
      ++ warn unread (counted unread "listed file could" "listed files could" ++ " not be read")
      ++ warn wrong (counted wrong "computed checksum" "computed checksums" ++ " did NOT match"),
      unread + wrong > 0 || (bad > 0 && o.has 's'))

def digestOptions : OptionTable :=
  .of "bctwz" [] [("binary", 'b'), ("check", 'c'), ("text", 't'), ("warn", 'w'), ("zero", 'z'),
    ("tag", 'T'), ("status", 'S'), ("quiet", 'q'), ("strict", 's'), ("ignore-missing", 'i')]

def digestTool (k : DigestKind) : Tool := fun c =>
  c.withOptions digestOptions 1 fun o =>
    if o.has 'c' then
      let found := c.readAll false (pathsOf o.operands)
      let parts := found.map fun x =>
        match x.2 with
        | .error f => ([(Stream.complaint, c.faultOf usualManner x.1 f)], true)
        | .ok t => checkList c o k x.1 t
      ⟨leftBy (pathsOf o.operands), parts.flatMap Prod.fst, [],
        if parts.any Prod.snd then 1 else 0⟩
    else
      c.onAll o.operands fun found =>
        found.flatMap fun f =>
          digestLine k (o.has 'T') (o.last? "bt" == some 'b') (o.has 'z') f.1 f.2

def cksum : Tool := fun c =>
  let table := OptionTable.of "z" "al" [("algorithm", 'a'), ("zero", 'z'), ("untagged", 'u'),
    ("tag", 'T'), ("length", 'l')]
  c.withOptions table 1 fun o =>
    let kind := (o.value? 'a').bind fun a => digestKinds.lookup (a ++ "sum")
    c.onAll o.operands fun found =>
      found.flatMap fun f =>
        match kind with
        | some k => digestLine k (!o.has 'u') false (o.has 'z') f.1 f.2
        | none =>
          let sum := if o.value? 'a' = some "bsd".toList then
              padWith '0' 5 (Text.ofNat (Digest.rotated f.2)) ++ ' ' ::
                padLeft 5 (Text.ofNat ((f.2.length + 1023) / 1024))
            else if o.value? 'a' = some "sysv".toList then
              Text.ofNat (Digest.folded f.2) ++ ' ' :: Text.ofNat ((f.2.length + 511) / 512)
            else Text.ofNat (Digest.remainder f.2) ++ ' ' :: Text.ofNat f.2.length
          sum ++ (if o.operands = [] then [] else ' ' :: f.1)
            ++ [if o.has 'z' then '\x00' else '\n']

def sum : Tool := fun c =>
  c.withOptions (.of "rs" [] [("sysv", 's')]) 1 fun o =>
    c.onAll o.operands fun found =>
      found.flatMap fun f =>
        let sum := if o.last? "rs" = some 's' then
            Text.ofNat (Digest.folded f.2) ++ ' ' :: Text.ofNat ((f.2.length + 511) / 512)
          else
            padWith '0' 5 (Text.ofNat (Digest.rotated f.2)) ++ ' ' ::
              padLeft 5 (Text.ofNat ((f.2.length + 1023) / 1024))
        sum ++ (if o.operands = [] then [] else ' ' :: f.1) ++ ['\n']

end Shell
end CoroBridge
