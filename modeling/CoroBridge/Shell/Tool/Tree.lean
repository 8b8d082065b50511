import CoroBridge.Shell.Tool.Options

/-!
# Command language: tools for the tree

Tools that show and change what stands in the tree of files. Each of them works through its
operands in order, and an operand that is refused does not keep it from the next one.

* `TreeWork`                     what was done by now;
* `rm`, `rmdir`                  files and directories taken away;
* `mkdir`, `touch`, `mktemp`, `mkfifo`, `truncate`   new ones;
* `cp`, `mv`                     files copied, and files brought to another place;
* `chmod`                        whether files may be run;
* `ls`                           the names in directories.
-/

namespace CoroBridge
namespace Shell

/-! ## work -/

structure TreeWork where
  files : Files
  written : List (Stream × Text)
  changes : List (Place × Option Node)
  refused : Bool

namespace TreeWork

def start (c : Call) : TreeWork := ⟨c.files, [], [], false⟩

def change (w : TreeWork) (p : Place) (n : Option Node) : TreeWork :=
  { w with files := w.files.change p n, changes := w.changes ++ [(p, n)] }

def note (w : TreeWork) (t : Text) : TreeWork :=
  { w with written := w.written ++ [(.output, t ++ ['\n'])] }

def refuse (w : TreeWork) (c : Call) (what : Text) : TreeWork :=
  { w with written := w.written ++ [(.complaint, c.complaint what)], refused := true }

def effect (w : TreeWork) : Effect := ⟨none, w.written, w.changes, if w.refused then 1 else 0⟩

end TreeWork

def Call.workThrough (c : Call) (operands : List Text) (f : TreeWork → Text → TreeWork) : Effect :=
  (operands.foldl f (.start c)).effect

/-- everything at a place and below it, the deepest first -/
def Files.below (f : Files) (p : Place) : List Place :=
  let places := f.changes.map Prod.fst ++ f.host.tree.map Prod.fst
  let found := places.filter fun q => p.isPrefixOf q && (f.at? q).isSome
  (found.foldl (fun ps q => if ps.contains q then ps else q :: ps) []).mergeSort
    fun a b => decide (b.length < a.length) || (a.length = b.length && !List.lex a b Text.precedes)

def baseName (path : Text) : Text := ((Files.trimSlashes path).splitOn '/').getLast?.getD []

def pathIn (dir name : Text) : Text :=
  if dir.getLast? = some '/' then dir ++ name else dir ++ '/' :: name

def pathBelow (path : Text) (top p : Place) : Text := (p.drop top.length).foldl pathIn path

/-! ## taken away -/

def rmOptions : OptionTable :=
  .of "dfirRIv" [] [("dir", 'd'), ("force", 'f'), ("recursive", 'r'), ("verbose", 'v')]

def TreeWork.remove (c : Call) (o : Options) (w : TreeWork) (path : Text) : TreeWork :=
  let all := o.has 'r' || o.has 'R'
  let refuse := fun (f : PathFault) =>
    w.refuse c ("cannot remove " ++ shownAlways path ++ ": " ++ f.message)
  let tell := fun (w : TreeWork) (what : Text) => if o.has 'v' then w.note what else w
  let take := fun (top : Place) (w : TreeWork) (p : Place) =>
    let front : Text := if w.files.at? p = some .directory then "removed directory " else "removed "
    (tell w (front ++ shownAlways (pathBelow path top p))).change p none
  let name := baseName path
  match w.files.place path, w.files.find path with
  | .ok p, .ok .directory =>
    if all && (name == ['.'] || name == ['.', '.']) then
      w.refuse c ("refusing to remove '.' or '..' directory: skipping " ++ shownAlways path)
    else if all && p == [] then
      (w.refuse c "it is dangerous to operate recursively on '/'").refuse c
        "use --no-preserve-root to override this failsafe"
    else if all then (w.files.below p).foldl (take p) w
    else if !o.has 'd' then refuse .directory
    else if w.files.names p = [] then take p w p
    else refuse .notEmpty
  | .ok p, .ok _ => take p w p
  | _, .error f =>
    if o.has 'f' ∧ (f = .missing ∨ f = .notDirectory) then w else refuse f
  | .error f, _ => refuse f

def rm : Tool := fun c =>
  c.withOptions rmOptions 1 fun o =>
    if o.operands = [] ∧ !o.has 'f' then c.misused 1 "missing operand"
    else c.workThrough o.operands (.remove c o)

/-- an empty directory taken away; complaints are about `what` -/
def TreeWork.removeEmpty (c : Call) (o : Options) (what : Text) (w : TreeWork) (path : Text) :
    TreeWork :=
  let w := if o.has 'v' then w.note (c.name ++ ": removing directory, " ++ shownAlways path) else w
  let refuse := fun (f : PathFault) =>
    w.refuse c ("failed to remove " ++ what ++ shownAlways path ++ ": " ++ f.message)
  match w.files.place path, w.files.find path with
  | .ok p, .ok .directory =>
    if baseName path = ['.'] then refuse .invalid
    else if w.files.names p = [] then w.change p none
    else if o.has 'i' then w
    else refuse .notEmpty
  | _, .ok _ => refuse .notDirectory
  | _, .error f => refuse f

def pathsAbove (path : Text) : List Text :=
  let names := (Files.trimSlashes path).splitOn '/'
  ((List.range names.length).drop 1).reverse.map fun n => List.intercalate ['/'] (names.take n)

def rmdir : Tool := fun c =>
  let table := OptionTable.of "pv" []
    [("parents", 'p'), ("verbose", 'v'), ("ignore-fail-on-non-empty", 'i')]
  c.withOptions table 1 fun o =>
    if o.operands = [] then c.misused 1 "missing operand"
    else
      c.workThrough o.operands fun w path =>
        let done := { w with refused := false }.removeEmpty c o [] path
        let above := if o.has 'p' then (pathsAbove path).filter (· ≠ []) else []
        let done := above.foldl (fun (w : TreeWork) path =>
          if w.refused then w else w.removeEmpty c o "directory " path) done
        { done with refused := w.refused || done.refused }

/-! ## new ones -/

def isOctalMode (t : Text) : Bool :=
  t ≠ [] && t.all (fun c => '0' ≤ c && c ≤ '7') && t.length ≤ 5

/-- what one clause of a mode makes of whether a file may be run -/
def clauseRuns? (runs : Bool) (t : Text) : Option Bool :=
  match t.dropWhile fun c => "ugoa".toList.contains c with
  | op :: r =>
    if !r.all fun c => "rwxXst".toList.contains c then none
    else if op = '+' then some (runs || r.contains 'x')
    else if op = '-' then some (runs && !r.contains 'x')
    else if op = '=' then some (r.contains 'x' || (runs && r.contains 'X'))
    else none
  | [] => none

/-- what a mode makes of whether a file may be run -/
def modeRuns? (mode : Text) (runs : Bool) : Option Bool :=
  if isOctalMode mode then
    some ((mode.reverse.take 3).any fun c => (c.toNat - '0'.toNat) % 2 == 1)
  else (mode.splitOn ',').foldlM clauseRuns? runs

/-- a directory made, with those above it if that is asked for -/
def TreeWork.makeDirectory (c : Call) (o : Options) (w : TreeWork) (path : Text) : TreeWork :=
  let refuse := fun (w : TreeWork) (path : Text) (f : PathFault) =>
    w.refuse c ("cannot create directory " ++ shownAlways path ++ ": " ++ f.message)
  let make := fun (w : TreeWork) (path : Text) =>
    match w.files.room (if path.all (· == '/') then path else Files.trimSlashes path) with
    | .error f => refuse w path f
    | .ok p =>
      if (w.files.at? p).isSome then refuse w path .taken
      else
        let w := if o.has 'v' then
            w.note (c.name ++ ": created directory " ++ shownAlways path)
          else w
        w.change p (some .directory)
  if o.has 'p' ∧ path ≠ [] then
    let above := (pathsAbove path).reverse.filter (· ≠ [])
    let step := fun (w : TreeWork) (path : Text) (f : PathFault) =>
      if w.refused then w
      else
        match w.files.find path with
        | .ok .directory => w
        | .ok _ => refuse w path f
        | .error _ => make w path
    let done := above.foldl (fun w path => step w path .notDirectory) { w with refused := false }
    let done := step done path .taken
    { done with refused := w.refused || done.refused }
  else make w path

def mkdir : Tool := fun c =>
  c.withOptions (.of "pv" "m" [("parents", 'p'), ("verbose", 'v'), ("mode", 'm')]) 1 fun o =>
    if o.operands = [] then c.misused 1 "missing operand"
    else
      match o.value? 'm' with
      | some m =>
        if (modeRuns? m false).isNone then c.fail 1 ("invalid mode " ++ quoted m)
        else c.workThrough o.operands (.makeDirectory c o)
      | none => c.workThrough o.operands (.makeDirectory c o)

def touchOptions : OptionTable :=
  .of "acfhm" "drt" [("no-create", 'c'), ("date", 'd'), ("reference", 'r'), ("time", 'q'),
    ("no-dereference", 'h')]

def touch : Tool := fun c =>
  c.withOptions touchOptions 1 fun o =>
    if o.operands = [] then c.misused 1 "missing file operand"
    else
      c.workThrough o.operands fun w path =>
        let refuse := fun (what : Text) (f : PathFault) =>
          w.refuse c (what ++ shownAlways path ++ ": " ++ f.message)
        if path = ['-'] ∨ (w.files.find path).isOk then w
        else
          match w.files.room path with
          | .ok p => if o.has 'c' then w else w.change p (some (.file [] false))
          | .error f =>
            if o.has 'c' ∧ f = .missing then w
            else if path.getLast? = some '/' then refuse "setting times of " f
            else refuse "cannot touch " f

def serial (width n : Nat) : Text :=
  let letters := (inBase 10 n).map fun d => Char.ofNat (d.toNat - '0'.toNat + 'a'.toNat)
  List.replicate (width - letters.length) 'a' ++ letters.drop (letters.length - width)

/-- a pattern for new names: what stands before the last row of `X`, its length, and what follows -/
def nameRow (pattern : Text) : Text × Nat × Text :=
  let r := pattern.reverse
  let after := r.takeWhile (· != 'X')
  let row := (r.drop after.length).takeWhile (· == 'X')
  ((r.drop (after.length + row.length)).reverse, row.length, after.reverse)

def mktempOptions : OptionTable :=
  { OptionTable.of "dqtu" "ps"
      [("directory", 'd'), ("quiet", 'q'), ("dry-run", 'u'), ("suffix", 's'), ("tmpdir", 'P')]
    with perhaps := ['P'] }

def mktemp : Tool := fun c =>
  c.withOptions mktempOptions 1 fun o =>
    let loud := fun (what : Text) => if o.has 'q' then silent 1 else c.fail 1 what
    match o.operands with
    | _ :: _ :: _ => c.misused 1 "too many templates"
    | operands =>
      let given := operands.head?
      let pattern := given.getD "tmp.XXXXXXXXXX" ++ (o.value? 's').getD []
      let asked := (o.value? 'p').or (o.value? 'P')
      let usual := (c.environment.lookup "TMPDIR".toList).getD "/tmp"
      let pattern :=
        if given.isNone || asked.isSome || o.has 't' || o.has 'P' then
          pathIn (asked.getD usual) pattern
        else pattern
      let (before, n, after) := nameRow pattern
      if n < 3 then c.fail 1 ("too few X's in template " ++ quoted (given.getD pattern))
      else
        let path := before ++ serial n c.files.changes.length ++ after
        let kind : Text := if o.has 'd' then "directory" else "file"
        match c.files.room path with
        | .error f =>
          loud ("failed to create " ++ kind ++ " via template " ++ quoted pattern ++ ": "
            ++ f.message)
        | .ok p =>
          let node : Node := if o.has 'd' then .directory else .file [] false
          let changes := if o.has 'u' then [] else [(p, some node)]
          ⟨none, [(.output, path ++ ['\n'])], changes, 0⟩

/-! ## copied and moved -/

/-- what stands at a path, or the input where the path stands for that -/
def Call.nodeAt (c : Call) (f : Files) (path : Text) : Except PathFault Node :=
  if isInput path ∧ path ≠ ['-'] then
    match c.source with
    | .ok t => .ok (.file t false)
    | .error _ => .error .missing
  else f.find path

/-- each file with the path that it gets, or what comes of wrong operands -/
def Call.destinations (c : Call) (o : Options) : Except Effect (List (Text × Text)) :=
  let into := fun (dir : Text) (paths : List Text) =>
    paths.map fun p => (p, pathIn dir (baseName p))
  let target := fun (dir : Text) (paths : List Text) =>
    let refuse := fun (what : PathFault) =>
      Except.error (c.fail 1 ("target " ++ shownAlways dir ++ ": " ++ what.message))
    match c.files.find dir with
    | .ok .directory => .ok (into dir paths)
    | .ok _ => refuse .notDirectory
    | .error f => refuse f
  match o.operands, o.value? 't' with
  | [], _ => .error (c.misused 1 "missing file operand")
  | paths, some dir => target dir paths
  | [p], none => .error (c.misused 1 ("missing destination file operand after " ++ shownAlways p))
  | [p, q], none =>
    if !o.has 'T' && c.files.find? q == some .directory then .ok (into q [p]) else .ok [(p, q)]
  | p :: q :: r :: more, none =>
    if o.has 'T' then .error (c.misused 1 ("extra operand " ++ shownAlways r))
    else
      let paths := p :: q :: r :: more
      target (paths.getLast?.getD []) paths.dropLast

/-- the place where something can be made at a path, or the reason why not; a slash at the end asks
for a directory -/
def Files.roomFor (f : Files) (directory : Bool) (path : Text) : Except PathFault Place :=
  let trimmed := Files.trimSlashes path
  if path.getLast? = some '/' ∧ !(f.find path).isOk ∧ trimmed ≠ [] then
    if directory then f.room trimmed else .error .notDirectory
  else f.room path

/-- everything at a place and below it put at another place too -/
def TreeWork.copyTree (w : TreeWork) (tell : TreeWork → Place → TreeWork) (source target : Place) :
    TreeWork :=
  (w.files.below source).reverse.foldl (fun w q =>
    (tell w q).change (target ++ q.drop source.length) (w.files.at? q)) w

def TreeWork.copy (c : Call) (o : Options) (w : TreeWork) (x : Text × Text) : TreeWork :=
  let (path, new) := x
  let both : Text := shownAlways path ++ " -> " ++ shownAlways new
  let tell := fun (w : TreeWork) => if o.has 'v' then w.note both else w
  match c.nodeAt w.files path with
  | .error f => w.refuse c ("cannot stat " ++ shownAlways path ++ ": " ++ f.message)
  | .ok .directory =>
    if !(o.has 'r' || o.has 'R' || o.has 'a') then
      w.refuse c ("-r not specified; omitting directory " ++ shownAlways path)
    else
      match w.files.place path, w.files.roomFor true new with
      | .ok p, .ok q =>
        let top := fun (w : TreeWork) (r : Place) =>
          if o.has 'v' then
            w.note (shownAlways (pathBelow path p r) ++ " -> " ++ shownAlways (pathBelow new p r))
          else w
        if p.isPrefixOf q then
          w.refuse c ("cannot copy a directory, " ++ shownAlways path ++ ", into itself, "
            ++ shownAlways new)
        else if (w.files.at? q).isSome ∧ w.files.at? q ≠ some .directory then
          w.refuse c ("cannot overwrite non-directory " ++ shownAlways new ++ " with directory "
            ++ shownAlways path)
        else w.copyTree top p q
      | _, .error f =>
        w.refuse c ("cannot create directory " ++ shownAlways new ++ ": " ++ f.message)
      | .error f, _ => w.refuse c ("cannot stat " ++ shownAlways path ++ ": " ++ f.message)
  | .ok node =>
    let text := match node with
      | .file t _ => t
      | _ => []
    if new = "/dev/stdout".toList ∨ new = "/dev/fd/1".toList then
      let w := tell w
      { w with written := w.written ++ [(.output, text)] }
    else if new = "/dev/stderr".toList ∨ new = "/dev/fd/2".toList then
      let w := tell w
      { w with written := w.written ++ [(.complaint, text)] }
    else
      match w.files.roomFor false new with
      | .error f =>
        w.refuse c ("cannot create regular file " ++ shownAlways new ++ ": " ++ f.message)
      | .ok q =>
        if !isInput path && (w.files.place path).toOption == some q then
          w.refuse c (shownAlways path ++ " and " ++ shownAlways new ++ " are the same file")
        else
          match w.files.at? q with
          | some .directory =>
            w.refuse c ("cannot overwrite directory " ++ shownAlways new ++ " with non-directory")
          | some old =>
            if o.has 'n' then w
            else
              let w := tell w
              match old with
              | .device .full =>
                if text = [] then w
                else
                  w.refuse c ("error writing " ++ shownAlways new ++ ": " ++ Blocked.full.message)
              | .file _ runs => w.change q (some (.file text runs))
              | _ => w
          | none => (tell w).change q (some node)

def cpOptions : OptionTable :=
  .of "abdfilnprsuvxHLPRT" "St" [("archive", 'a'), ("force", 'f'), ("no-clobber", 'n'),
    ("no-target-directory", 'T'), ("recursive", 'r'), ("target-directory", 't'), ("verbose", 'v')]

def cp : Tool := fun c =>
  c.withOptions cpOptions 1 fun o =>
    match c.destinations o with
    | .error e => e
    | .ok xs =>
      let e := (xs.foldl (TreeWork.copy c o) (TreeWork.start c)).effect
      { e with left := if xs.any fun x => isInput x.1 && x.1 != ['-'] then some [] else none }

def TreeWork.move (c : Call) (o : Options) (w : TreeWork) (x : Text × Text) : TreeWork :=
  let (path, new) := x
  let pair : Text := shownAlways path ++ " to " ++ shownAlways new
  match w.files.place path, w.files.find path with
  | .ok p, .ok node =>
    let directory := node == .directory
    match w.files.roomFor directory new with
    | .error f => w.refuse c ("cannot move " ++ pair ++ ": " ++ f.message)
    | .ok q =>
      let old := w.files.at? q
      if directory && p.isPrefixOf q then
        w.refuse c ("cannot move " ++ shownAlways path ++ " to a subdirectory of itself, "
          ++ shownAlways new)
      else if p = q then
        w.refuse c (shownAlways path ++ " and " ++ shownAlways new ++ " are the same file")
      else if !directory && old == some .directory then
        w.refuse c ("cannot overwrite directory " ++ shownAlways new ++ " with non-directory")
      else if directory && old.isSome && old != some .directory then
        w.refuse c ("cannot overwrite non-directory " ++ shownAlways new ++ " with directory "
          ++ shownAlways path)
      else if directory && w.files.names q ≠ [] then
        w.refuse c ("cannot move " ++ pair ++ ": " ++ PathFault.notEmpty.message)
      else if o.has 'n' && old.isSome then w.refuse c ("not replacing " ++ shownAlways new)
      else
        let w := if o.has 'v' then
            w.note ("renamed " ++ shownAlways path ++ " -> " ++ shownAlways new)
          else w
        let sources := w.files.below p
        let w := w.copyTree (fun w _ => w) p q
        sources.foldl (fun w r => w.change r none) w
  | _, .error f => w.refuse c ("cannot stat " ++ shownAlways path ++ ": " ++ f.message)
  | .error f, _ => w.refuse c ("cannot stat " ++ shownAlways path ++ ": " ++ f.message)

def mvOptions : OptionTable :=
  .of "bfinuvTZ" "St" [("force", 'f'), ("no-clobber", 'n'), ("no-target-directory", 'T'),
    ("target-directory", 't'), ("verbose", 'v')]

def mv : Tool := fun c =>
  c.withOptions mvOptions 1 fun o =>
    match c.destinations o with
    | .error e => e
    | .ok xs => (xs.foldl (TreeWork.move c o) (TreeWork.start c)).effect

def mkfifo : Tool := fun c =>
  c.withOptions (.of "Z" "m" [("mode", 'm')]) 1 fun o =>
    if o.operands = [] then c.misused 1 "missing operand"
    else
      c.workThrough o.operands fun w path =>
        let refuse := fun (f : PathFault) =>
          w.refuse c ("cannot create fifo " ++ shownAlways path ++ ": " ++ f.message)
        match w.files.room path with
        | .ok p => if (w.files.at? p).isSome then refuse .taken else w.change p (some .fifo)
        | .error f => refuse f

def truncate : Tool := fun c =>
  c.withOptions (.of "co" "rs" [("no-create", 'c'), ("io-blocks", 'o'), ("reference", 'r'),
    ("size", 's')]) 1 fun o =>
    let reference := (o.value? 'r').map fun r =>
      match c.files.find r with
      | .ok (.file t _) => t.length
      | _ => 0
    let text := (o.value? 's').getD []
    let (sign, digits) := match text with
      | s :: r => if "+-<>/%".toList.contains s then (some s, r) else (none, text)
      | [] => (none, [])
    match reference, size? digits with
    | none, none =>
      if (o.value? 's').isNone then
        c.misused 1 "you must specify either '--size' or '--reference'"
      else c.fail 1 ("Invalid number: " ++ quoted text)
    | reference, n =>
      if o.operands = [] then c.misused 1 "missing file operand"
      else
        let n := n.getD 0
        c.workThrough o.operands fun w path =>
          match w.files.room path with
          | .error f =>
            w.refuse c ("cannot open " ++ shownAlways path ++ " for writing: " ++ f.message)
          | .ok p =>
            let old := w.files.textAt p
            let base := reference.getD old.length
            let size := match sign with
              | some '+' => base + n
              | some '-' => base - n
              | some '<' => min base n
              | some '>' => max base n
              | some '/' => if n = 0 then base else base / n * n
              | some _ => if n = 0 then base else (base + n - 1) / n * n
              | none => if (o.value? 's').isSome then n else base
            if o.has 'c' ∧ (w.files.at? p).isNone then w
            else
              let t := old.take size ++ List.replicate (size - old.length) '\x00'
              let files := w.files.putText p t
              w.change p (files.at? p)

/-! ## modes and names -/

def chmod : Tool := fun c =>
  let isMode := fun (a : Text) =>
    match a with
    | '-' :: r => r ≠ [] && r.all fun x => "rwxXst,ugoa+-=".toList.contains x
    | _ => false
  let taken := c.args.find? isMode
  let c' := { c with args := c.args.filter fun a => taken != some a }
  c'.withOptions (.of "cfvR" [] [("recursive", 'R'), ("quiet", 'f')]) 1 fun o =>
    let (mode, paths) := match taken with
      | some m => (some m, o.operands)
      | none => (o.operands.head?, o.operands.drop 1)
    match mode, paths with
    | none, _ => c.misused 1 "missing operand"
    | some m, [] => c.misused 1 ("missing operand after " ++ quoted m)
    | some m, _ =>
      if (modeRuns? m false).isNone then c.misused 1 ("invalid mode: " ++ quoted m)
      else
        c.workThrough paths fun w path =>
          match w.files.place path, w.files.find path with
          | .ok p, .ok (.file t runs) =>
            w.change p (some (.file t ((modeRuns? m runs).getD runs)))
          | _, .ok _ => w
          | _, .error f => w.refuse c ("cannot access " ++ shownAlways path ++ ": " ++ f.message)

def lsOptions : OptionTable :=
  .of "1aAdfFmprQU" [] [("all", 'a'), ("almost-all", 'A'), ("directory", 'd'), ("reverse", 'r')]

/-- a name in a list, with a mark for what stands there -/
def listedName (o : Options) (name : Text) (n : Option Node) : Text :=
  match n with
  | some .directory => if o.has 'F' || o.has 'p' then name ++ ['/'] else name
  | some (.file _ true) => if o.has 'F' then name ++ ['*'] else name
  | some (.program _) => if o.has 'F' then name ++ ['*'] else name
  | some .fifo => if o.has 'F' then name ++ ['|'] else name
  | _ => name

/-- the names in a directory, as they are shown -/
def listedIn (o : Options) (f : Files) (p : Place) : Text :=
  let all := o.has 'a' || o.has 'f'
  let names := (f.names p).filter fun n => all || o.has 'A' || n.head? != some '.'
  let shown := names.map fun n => listedName o n (f.at? (p ++ [n]))
  let shown := if all then
      listedName o ['.'] (some .directory) :: listedName o ['.', '.'] (some .directory) :: shown
    else shown
  let shown := if o.has 'r' then shown.reverse else shown
  if o.has 'm' ∧ shown ≠ [] then List.intercalate ", ".toList shown ++ ['\n'] else withEnds shown

def ls : Tool := fun c =>
  c.withOptions lsOptions 2 fun o =>
    let paths := if o.operands = [] then [['.']] else o.operands
    let paths := paths.mergeSort fun a b => if o.has 'r' then !Text.precedes a b else !Text.precedes b a
    let found := paths.map fun p => (p, c.files.find p)
    let complaints := found.filterMap fun x =>
      match x.2 with
      | .error f =>
        some (Stream.complaint,
          c.complaint ("cannot access " ++ shownAlways x.1 ++ ": " ++ f.message))
      | .ok _ => none
    let nodes := found.filterMap fun x => x.2.toOption.map fun n => (x.1, n)
    let (dirs, plain) := nodes.partition fun x => x.2 == .directory && !o.has 'd'
    let front := withEnds (plain.map fun x => listedName o x.1 (some x.2))
    let lists := dirs.map fun x =>
      let title := if paths.length > 1 then x.1 ++ ":\n".toList else []
      title ++ listedIn o c.files ((c.files.place x.1).toOption.getD [])
    let parts := (if front = [] then [] else [front]) ++ lists
    ⟨none, complaints ++ [(.output, List.intercalate ['\n'] parts)], [],
      if complaints = [] then 0 else 2⟩

end Shell
end CoroBridge
