import CoroBridge.Shell.Tool.Options

/-!
# Command language: tools that tell facts

Tools that tell something about the host, about the process, or about paths.

* `printenv`                     exported variables;
* `whoami`, `id`, `uname`, …     the user and the machine;
* `which`                        where programs stand;
* `realpath`, `readlink`         paths without detours;
* `stat`                         what stands at a path, in a format;
* `factor`, `tsort`              facts about numbers, and an order of names.
-/

namespace CoroBridge
namespace Shell

/-! ## variables -/

def printenv : Tool := fun c =>
  c.withOptions { OptionTable.of "0" [] [("null", '0')] with ordered := true } 2 fun o =>
    let ending := if o.has '0' then '\x00' else '\n'
    if o.operands = [] then
      writing (withEndings ending (c.environment.map fun p => p.1 ++ '=' :: p.2))
    else
      let values := o.operands.map fun n => if '=' ∈ n then none else c.environment.lookup n
      { writing (withEndings ending (values.filterMap id)) with
        status := if values.all Option.isSome then 0 else 1 }

/-! ## the user and the machine -/

/-- a tool that tells one thing and takes no operand -/
def telling (line : Text) : Tool := fun c =>
  c.withOptions (.of [] [] []) 1 fun o =>
    match o.operands with
    | [] => writing (line ++ ['\n'])
    | a :: _ => c.misused 1 ("extra operand " ++ quoted a)

def identity : Tool := fun c =>
  c.withOptions (.of "aZGgunrz" [] [("group", 'g'), ("groups", 'G'), ("user", 'u'), ("name", 'n'),
    ("real", 'r'), ("zero", 'z')]) 1 fun o =>
    let wrong := o.operands.filter fun a => a ≠ "root".toList ∧ a ≠ ['0']
    let complaint := wrong.flatMap fun a => c.complaint (quoted a ++ ": no such user")
    let line : Text :=
      if o.has 'u' ∨ o.has 'g' ∨ o.has 'G' then (if o.has 'n' then "root" else "0")
      else "uid=0(root) gid=0(root) groups=0(root)"
    let told := if o.operands ≠ [] ∧ wrong.length = o.operands.length then [] else line ++ ['\n']
    ⟨none, [(.complaint, complaint), (.output, told)], [], if wrong = [] then 0 else 1⟩

def uname : Tool := fun c =>
  c.withOptions (.of "asnrvmpio" [] [("all", 'a'), ("kernel-name", 's'), ("nodename", 'n'),
    ("kernel-release", 'r'), ("kernel-version", 'v'), ("machine", 'm'), ("processor", 'p'),
    ("hardware-platform", 'i'), ("operating-system", 'o')]) 1 fun o =>
    match o.operands with
    | a :: _ => c.misused 1 ("extra operand " ++ quoted a)
    | [] =>
      let facts : List (Char × Text) :=
        [('s', "Linux"), ('n', "localhost"), ('r', "6.1.0"), ('v', "#1 SMP"), ('m', "x86_64"),
          ('o', "GNU/Linux")]
      let wanted := facts.filter fun f => o.has f.1 || o.has 'a'
      let wanted := if o.given = [] then facts.take 1 else wanted
      let others := if o.has 'p' || o.has 'i' then ["unknown".toList] else []
      writing (List.intercalate [' '] (wanted.map Prod.snd ++ others) ++ ['\n'])

def which : Tool := fun c =>
  let table := OptionTable.of "as" [] []
  match table.read none c.args with
  | .error f => ⟨none, [(.complaint, c.complaint f.message)], [], 2⟩
  | .ok o =>
    let dirs := ((c.environment.lookup "PATH".toList).getD []).splitOn ':'
    let runs := fun (p : Text) =>
      match c.files.find? p with
      | some (.program _) => true
      | some (.file _ runs) => runs
      | _ => false
    let found := o.operands.map fun n =>
      let paths := if '/' ∈ n then [n] else dirs.map fun d => d ++ '/' :: n
      let there := paths.filter runs
      if o.has 'a' then there else there.take 1
    let told := if o.has 's' then [] else withEnds found.flatten
    ⟨none, [(.output, told)], [],
      if o.operands = [] ∨ found.any List.isEmpty then 1 else 0⟩

/-! ## paths -/

/-- a path without detours: `needs` tells whether all of it must be there, or all but its last
name, or nothing -/
def straightened (f : Files) (needs : Nat) (path : Text) : Except PathFault Text :=
  if path = [] then .error .missing
  else
    let names := (path.splitOn '/').filter fun n => n ≠ [] ∧ n ≠ ['.']
    let start := f.origin path
    let walked := names.foldl (fun (p : Place) n => if n = ['.', '.'] then p.dropLast else p ++ [n])
      start
    if needs = 0 then .ok (Files.path walked)
    else
      match f.place path with
      | .error e => .error e
      | .ok p =>
        if needs = 1 ∧ f.at? p.dropLast ≠ some .directory then
          .error (if (f.at? p.dropLast).isSome then .notDirectory else .missing)
        else if needs = 2 ∧ (f.at? p).isNone then .error .missing
        else .ok (Files.path p)

def realpath : Tool := fun c =>
  c.withOptions (.of "emLPqsz" [] [("canonicalize-existing", 'e'), ("canonicalize-missing", 'm'),
    ("quiet", 'q'), ("strip", 's'), ("no-symlinks", 's'), ("zero", 'z')]) 1 fun o =>
    if o.operands = [] then c.misused 1 "missing operand"
    else
      let needs := match o.last? "em" with
        | some 'e' => 2
        | some _ => 0
        | none => 1
      let ending := if o.has 'z' then '\x00' else '\n'
      let found := o.operands.map fun p => (p, straightened c.files needs p)
      let written := found.filterMap fun x =>
        match x.2 with
        | .ok t => some (Stream.output, t ++ [ending])
        | .error f => if o.has 'q' then none else
            some (.complaint, c.complaint (shownName x.1 ++ ": " ++ f.message))
      ⟨none, written, [], if found.all fun x => x.2.isOk then 0 else 1⟩

def readlink : Tool := fun c =>
  c.withOptions (.of "femnqsvz" [] [("canonicalize", 'f'), ("canonicalize-existing", 'e'),
    ("canonicalize-missing", 'm'), ("no-newline", 'n'), ("quiet", 'q'), ("silent", 's'),
    ("verbose", 'v'), ("zero", 'z')]) 1 fun o =>
    if o.operands = [] then c.misused 1 "missing operand"
    else
      match o.last? "fem" with
      | none =>
        let told := if o.has 'v' then o.operands.flatMap fun p =>
            c.complaint (shownName p ++ ": " ++ PathFault.invalid.message) else []
        ⟨none, [(.complaint, told)], [], 1⟩
      | some k =>
        let needs := if k = 'e' then 2 else if k = 'm' then 0 else 1
        let found := o.operands.map fun p => straightened c.files needs p
        let ending : Text := if o.has 'z' then ['\x00'] else
          if o.has 'n' ∧ o.operands.length = 1 then [] else ['\n']
        ⟨none, [(.output, (found.filterMap Except.toOption).flatMap (· ++ ending))], [],
          if found.all Except.isOk then 0 else 1⟩

/-! ## what stands at a path -/

def Node.kind : Node → Text
  | .directory => "directory"
  | .file [] _ => "regular empty file"
  | .file _ _ => "regular file"
  | .device _ => "character special file"
  | .fifo => "fifo"
  | .program _ => "regular file"

def Node.rights : Node → Nat
  | .directory => 0o755
  | .file _ runs => if runs then 0o755 else 0o644
  | .device _ => 0o666
  | .fifo => 0o644
  | .program _ => 0o755

/-- the letter and the bits of the kind of a node -/
def Node.letter : Node → Char × Nat
  | .directory => ('d', 0o040000)
  | .file _ _ => ('-', 0o100000)
  | .device _ => ('c', 0o020000)
  | .fifo => ('p', 0o010000)
  | .program _ => ('-', 0o100000)

def rightsText (n : Nat) : Text :=
  [64, 8, 1].flatMap fun k =>
    let b := n / k % 8
    [if b / 4 % 2 = 1 then 'r' else '-', if b / 2 % 2 = 1 then 'w' else '-',
      if b % 2 = 1 then 'x' else '-']

def Node.size : Node → Nat
  | .file t _ => t.length
  | .directory => 4096
  | _ => 0

def Node.fact (n : Node) (path : Text) (fact : Char) : Text :=
  match fact with
  | 'n' => path
  | 'N' => shownAlways path
  | 's' => Text.ofNat n.size
  | 'F' => n.kind
  | 'a' => inBase 8 n.rights
  | 'A' => n.letter.1 :: rightsText n.rights
  | 'f' => inBase 16 (n.letter.2 + n.rights)
  | 'u' => "0"
  | 'g' => "0"
  | 'U' => "root"
  | 'G' => "root"
  | 'h' => if n = .directory then "2" else "1"
  | 'b' => Text.ofNat ((n.size + 4095) / 4096 * 8)
  | 'B' => "512"
  | 'o' => "4096"
  | 'm' => "/"
  | 't' => "0"
  | 'T' => "0"
  | 'i' => "1"
  | 'd' => "1"
  | 'D' => "1"
  | 'x' => "1970-01-01 00:00:00.000000000 +0000"
  | 'y' => "1970-01-01 00:00:00.000000000 +0000"
  | 'z' => "1970-01-01 00:00:00.000000000 +0000"
  | 'X' => "0"
  | 'Y' => "0"
  | 'Z' => "0"
  | 'W' => "0"
  | 'w' => "-"
  | _ => "?"

/-- a format with the facts about a node; `escapes` tells that backslashes have a meaning -/
def statFormat (escapes : Bool) (n : Node) (path : Text) : Nat → Text → Text
  | 0, _ => []
  | fuel + 1, t =>
    match t with
    | [] => []
    | '%' :: '%' :: r => '%' :: statFormat escapes n path fuel r
    | '%' :: r =>
      let flags := r.takeWhile fun c => "-+ #0'".toList.contains c
      let r := r.drop flags.length
      let width := r.takeWhile Char.isDigit
      match r.drop width.length with
      | [] => ['%']
      | c :: r =>
        let fact := n.fact path c
        let fact := if c = 'a' ∧ flags.contains '#' then '0' :: fact else fact
        let w := digitsValue width
        let fact := if flags.contains '-' then fact ++ List.replicate (w - fact.length) ' '
          else padWith (if flags.contains '0' then '0' else ' ') w fact
        fact ++ statFormat escapes n path fuel r
    | '\\' :: r =>
      if escapes then
        match r with
        | 'n' :: r => '\n' :: statFormat escapes n path fuel r
        | 't' :: r => '\t' :: statFormat escapes n path fuel r
        | '0' :: r => '\x00' :: statFormat escapes n path fuel r
        | c :: r => c :: statFormat escapes n path fuel r
        | [] => ['\\']
      else '\\' :: statFormat escapes n path fuel r
    | c :: r => c :: statFormat escapes n path fuel r

def stat : Tool := fun c =>
  let table :=
    { OptionTable.of "Lft" "cp" [("dereference", 'L'), ("file-system", 'f'), ("format", 'c'),
      ("terse", 't'), ("printf", 'p')] with ordered := false }
  c.withOptions table 1 fun o =>
    if o.operands = [] then c.misused 1 "missing operand"
    else
      let (escapes, format) := match o.last? "cp" with
        | some 'p' => (true, (o.value? 'p').getD [])
        | some _ => (false, (o.value? 'c').getD [] ++ ['\n'])
        | none => (true, "  File: %N\\n  Size: %s\\n")
      let found := o.operands.map fun p => (p, c.files.find p)
      let written := found.map fun x =>
        match x.2 with
        | .ok n => (Stream.output, statFormat escapes n x.1 (format.length + 1) format)
        | .error f => (.complaint, c.complaint
            ("cannot statx " ++ shownAlways x.1 ++ ": " ++ f.message))
      ⟨none, written, [], if found.all fun x => x.2.isOk then 0 else 1⟩

/-! ## numbers and names -/

/-- the prime factors of a number from a divisor on -/
def primeFactors : Nat → Nat → Nat → List Nat
  | 0, _, n => [n]
  | fuel + 1, d, n =>
    if n < d * d then (if n = 1 then [] else [n])
    else if n % d = 0 then d :: primeFactors fuel d (n / d)
    else primeFactors fuel (d + 1) n

def factor : Tool := fun c =>
  c.withOptions (.of "h" [] [("exponents", 'h')]) 1 fun o =>
    let words := if o.operands = [] then
        ((c.input.getD []).splitOnP isSpace).filter (· ≠ [])
      else o.operands
    let lines := words.map fun w =>
      match number? (if w.head? = some '+' then w.drop 1 else w) with
      | some n =>
        let fs := if n < 2 then [] else primeFactors (4 * n + 4) 2 n
        (Stream.output, Text.ofNat n ++ [':'] ++ (fs.flatMap fun f => ' ' :: Text.ofNat f) ++ ['\n'])
      | none => (.complaint, c.complaint (quoted w ++ " is not a valid positive integer"))
    ⟨if o.operands = [] then some [] else none, lines, [],
      if lines.any (·.1 = .complaint) then 1 else 0⟩

/-- names in an order in which each comes after those that must come before it -/
def sortedNames (pairs : List (Text × Text)) : Nat → List Text → List Text × List Text
  | 0, names => ([], names)
  | n + 1, names =>
    match names.find? fun x => !pairs.any fun p => p.2 == x && p.1 != x && names.contains p.1 with
    | some x =>
      let (sorted, left) := sortedNames pairs n (names.filter (· ≠ x))
      (x :: sorted, left)
    | none => ([], names)

def tsort : Tool := fun c =>
  c.withOptions (.of [] [] []) 1 fun o =>
    match o.operands with
    | _ :: a :: _ => c.misused 1 ("extra operand " ++ quoted a)
    | operands =>
      let path := operands.headD ['-']
      match c.read path with
      | .error f => c.fail 1 (shownName path ++ ": " ++ f.reason.message)
      | .ok t =>
        let words := (t.splitOnP isSpace).filter (· ≠ [])
        if words.length % 2 = 1 then
          { c.fail 1 (shownName path ++ ": input contains an odd number of tokens") with
            left := leftBy [path] }
        else
          let pairs := pairsOf words
          let names := words.foldl (fun ns w => if ns.contains w then ns else ns ++ [w]) []
          let (sorted, left) := sortedNames pairs names.length names
          let told := if left = [] then [] else
            c.complaint (shownName path ++ ": input contains a loop:")
              ++ left.flatMap c.complaint
          ⟨leftBy [path], [(.output, withEnds sorted), (.complaint, told),
            (.output, withEnds left)], [], if left = [] then 0 else 1⟩
where
  /-- words two by two -/
  pairsOf : List Text → List (Text × Text)
    | a :: b :: r => (a, b) :: pairsOf r
    | _ => []

end Shell
end CoroBridge
