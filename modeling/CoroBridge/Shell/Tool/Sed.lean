import CoroBridge.Shell.Tool.Options
import CoroBridge.Shell.Tool.Sed.Program

/-!
# Command language: lines edited

The tool `sed` does the commands of a program on every line of its input.

* `EditLine`           a line that is left to read;
* `EditState`          the line at hand, the text that is held, and what is left to read;
* `Order.applies`      whether a command is for the line at hand;
* `EditState.run`      the commands done from one of them on;
* `editLines`          the program done on all lines;
* `sed`                the tool.
-/

namespace CoroBridge
namespace Shell

/-! ## state -/

structure EditLine where
  text : Text
  ended : Bool
  file : Text

/-- how lines are edited: whether they are written unless a command says so, the character that ends
them, the greatest width of lines that are shown, whether they stay in their files, and what can be
read at a path -/
structure EditManner where
  quiet : Bool
  ending : Char
  width : Nat
  inPlace : Bool
  read : Text → Text

/-- what was written to a file, and whether its last line lacks an end -/
structure EditFile where
  path : Text
  text : Text
  owing : Bool

inductive Later where
  | text (t : Text)
  | line (t : Text)

structure EditState where
  space : Text
  ended : Bool
  file : Text
  held : Text
  heldEnded : Bool
  left : List EditLine
  number : Nat
  later : List Later
  written : List (Stream × Text)
  owing : Bool
  edited : List Text
  files : List EditFile
  readers : List (Text × List Text)
  replaced : Bool
  ranges : List (Nat × Option Nat)
  recent : Option Regex

/-- what becomes of the program after some commands -/
inductive EditEnd where
  | print
  | drop
  | again
  | quit (print : Bool) (status : Nat)
  | failed (what : EditFault)
  deriving DecidableEq, Repr

def EditState.write (k : EditManner) (s : EditState) (t : Text) : EditState :=
  let t := if s.owing then k.ending :: t else t
  if t = [] then s
  else if k.inPlace then { s with edited := t :: s.edited, owing := false }
  else { s with written := (.output, t) :: s.written, owing := false }

def EditState.writeLine (k : EditManner) (s : EditState) (t : Text) : EditState :=
  let s := s.write k (if s.ended then t ++ [k.ending] else t)
  { s with owing := !s.ended }

/-- a line written to a file, ended as the line at hand is -/
def EditState.fileLine (k : EditManner) (s : EditState) (path t : Text) : EditState :=
  let whole := if s.ended then t ++ [k.ending] else t
  if path = "/dev/stdout".toList ∧ !k.inPlace then s.writeLine k t
  else if path = "/dev/stdout".toList then { s with written := (.output, whole) :: s.written }
  else if path = "/dev/stderr".toList then { s with written := (.complaint, whole) :: s.written }
  else
    { s with files := s.files.map fun f =>
      if f.path = path then
        { f with
          text := f.text ++ (if f.owing then [k.ending] else []) ++ whole, owing := !s.ended }
      else f }

def EditState.atLast (s : EditState) : Bool := s.left.isEmpty

def EditState.read? (s : EditState) : Option (Text × EditState) :=
  match s.left with
  | [] => none
  | l :: ls =>
    some (l.text, { s with left := ls, number := s.number + 1, ended := l.ended, file := l.file })

def EditState.flush (k : EditManner) (s : EditState) : EditState :=
  let s' := s.later.foldl (fun (s : EditState) x =>
    match x with
    | .text t => s.write k t
    | .line t => s.write k (t ++ [k.ending])) s
  { s' with later := [] }

def EditState.find? (s : EditState) (p : Pattern) (before : Option Char) (t : Text) :
    Option Match :=
  (p.regex.or s.recent).bind fun r => r.find? p.sight before t

def EditState.remember (s : EditState) (p : Pattern) : EditState :=
  { s with recent := p.regex.or s.recent }

def EditState.knows (s : EditState) (p : Pattern) : Bool := (p.regex.or s.recent).isSome

/-- what was written to a file so far, or stands in it -/
def EditState.textOf (k : EditManner) (s : EditState) (path : Text) : Text :=
  match s.files.find? (·.path == path) with
  | some f => f.text
  | none => k.read path

/-! ## addresses -/

/-- whether an address names the line at hand, and the state after that was asked -/
def Address.names (a : Address) (s : EditState) : Except EditFault (Bool × EditState) :=
  match a with
  | line n => .ok (s.number == n, s)
  | last => .ok (s.atLast, s)
  | pattern p =>
    if s.knows p then .ok ((s.find? p none s.space).isSome, s.remember p) else .error .noPattern
  | every first step => .ok (first ≤ s.number && (s.number - first) % step == 0, s)

/-- whether a command is for the line at hand, before it is turned around -/
def Order.inRange (o : Order) (k : Nat) (s : EditState) : Except EditFault (Bool × EditState) :=
  match o.first, o.last with
  | none, _ => .ok (true, s)
  | some a, none => a.names s
  | some a, some u =>
    let leave := fun (s : EditState) => { s with ranges := s.ranges.filter (·.1 != k) }
    let enter := fun (s : EditState) (last : Option Nat) =>
      { s with ranges := (k, last) :: s.ranges }
    let begin_ : Except EditFault (Bool × EditState) := do
      let (yes, s) ← a.names s
      if !yes then .ok (false, s)
      else
        match u with
        | .address (.line n) => .ok (true, if n ≤ s.number then s else enter s (some n))
        | .address .last => .ok (true, if s.atLast then s else enter s none)
        | .address _ => .ok (true, enter s none)
        | .further n => .ok (true, if n = 0 then s else enter s (some (s.number + n)))
        | .multiple n =>
          .ok (true, if n = 0 then s else enter s (some (s.number + (n - s.number % n))))
    let active :=
      match s.ranges.lookup k, a, s.number with
      | some r, _, _ => some r
      | none, .line 0, 1 =>
        match u with
        | .address (.pattern _) => some none
        | _ => none
      | none, _, _ => none
    match active with
    | none => begin_
    | some (some n) =>
      if s.number < n then .ok (true, s)
      else if s.number = n then .ok (true, leave s)
      else a.names (leave s)
    | some none =>
      match u with
      | .address e => do
        let (yes, s) ← e.names s
        .ok (true,
          if yes then leave s else if s.ranges.any (·.1 == k) then s else enter s none)
      | _ => .ok (true, leave s)

def Order.applies (o : Order) (k : Nat) (s : EditState) : Except EditFault (Bool × EditState) :=
  (o.inRange k s).map fun p => (p.1 != o.negated, p.2)

/-! ## substitution -/

/-- a text with its case changed, once for its first character and once for all -/
def changed (one all : CaseChange) (t : Text) : Text :=
  let t := match all with
    | .upper => t.map Char.toUpper
    | .lower => t.map Char.toLower
    | _ => t
  match t, one with
  | c :: r, .upperOne => c.toUpper :: r
  | c :: r, .lowerOne => c.toLower :: r
  | _, _ => t

def inserted? (m : Match) (one all : CaseChange) : List Insert → Text
  | [] => []
  | .change c :: is =>
    match c with
    | .upperOne => inserted? m c all is
    | .lowerOne => inserted? m c all is
    | _ => inserted? m .off c is
  | .char c :: is => changed one all [c] ++ inserted? m .off all is
  | .group n :: is =>
    let t := if n = 0 then m.text else (m.groups.lookup n).getD []
    changed one all t ++ inserted? m (if t = [] then one else .off) all is

/-- a text in which the match at a place, or it and all further ones, are replaced; `afterMatch`
tells that a match ends here, where no empty one may follow it -/
def substituted (s : EditState) (p : Pattern) (inserts : List Insert) (all : Bool) :
    Nat → Nat → Option Char → Bool → Text → Option Text
  | 0, _, _, _, _ => none
  | n + 1, place, before, afterMatch, t =>
    match s.find? p before t with
    | none => none
    | some m =>
      let first := m.before.getLast?.or before
      let step := fun (place : Nat) (t : Text) (before : Option Char) (afterMatch : Bool) =>
        substituted s p inserts all n place before afterMatch t
      match m.text with
      | [] =>
        if afterMatch ∧ m.before = [] then
          match m.after with
          | [] => none
          | c :: r => (step place r (some c) false).map (c :: ·)
        else
          let new := inserted? m .off .off inserts
          let rest : Text → Option Text := fun _ =>
            match m.after with
            | [] => none
            | c :: r => (step (place - 1) r (some c) false).map (c :: ·)
          if place ≤ 1 then
            some (m.before ++ new ++ (if all then (rest []).getD m.after else m.after))
          else (rest []).map (m.before ++ ·)
      | _ =>
        let ending := m.text.getLast?.or first
        if place ≤ 1 then
          let new := inserted? m .off .off inserts
          let rest := if all then (step place m.after ending true).getD m.after else m.after
          some (m.before ++ new ++ rest)
        else
          (step (place - 1) m.after ending true).map (m.before ++ m.text ++ ·)

/-! ## lines shown -/

def seenChar (c : Char) : Text := if c = '\\' then "\\\\".toList else (escapeOf? c).getD [c]

/-- a line shown in pieces no wider than `width`, with a dollar sign at its end; `used` places of
the piece at hand are taken -/
def shownLine (width used : Nat) : Text → Text
  | [] => "$\n"
  | c :: r =>
    let t := seenChar c
    if width ≠ 0 ∧ width - 1 < used + t.length then "\\\n" ++ t ++ shownLine width t.length r
    else t ++ shownLine width (used + t.length) r

/-! ## commands -/

/-- the place after the brace that closes the one before a place, when `depth` more are open -/
def closingAfter (depth : Nat) (k : Nat) : List Order → Nat
  | [] => k
  | o :: os =>
    match o.edit, depth with
    | .opening, d => closingAfter (d + 1) (k + 1) os
    | .closing, 0 => k + 1
    | .closing, d + 1 => closingAfter d (k + 1) os
    | _, d => closingAfter d (k + 1) os

def labelPlace (os : List Order) (name : Text) : Nat :=
  if name = [] then os.length
  else (os.findIdx fun o => match o.edit with | .label n => n == name | _ => false)

/-- a substitution done, or nothing if no match is there -/
def EditState.substitute (k : EditManner) (s : EditState) (x : Substitution) : EditState :=
  let n := s.space.length + 2
  match substituted s x.pattern x.inserts x.all n x.place none false s.space with
  | none => s.remember x.pattern
  | some t =>
    let s := { s.remember x.pattern with space := t, replaced := true }
    let s := if x.print then s.writeLine k s.space else s
    match x.file with
    | some path => s.fileLine k path s.space
    | none => s

/-- the next line of a file that is read line by line, if there is one -/
def EditState.lineOf (k : EditManner) (s : EditState) (path : Text) : EditState :=
  let ls := (s.readers.lookup path).getD (recordsOf k.ending (s.textOf k path))
  let readers := (path, ls.drop 1) :: s.readers.filter (·.1 != path)
  { s with readers := readers, later := s.later ++ (ls.head?.map Later.line).toList }

/-- what a command that jumps to no other does to the state, and how it ends if it is the last -/
def EditState.step (k : EditManner) (o : Order) (place : Nat) (s : EditState) :
    EditState × Option EditEnd :=
  let on := fun (s : EditState) => (s, (none : Option EditEnd))
  match o.edit with
  | .substitute x =>
    if s.knows x.pattern then on (s.substitute k x) else (s, some (.failed .noPattern))
  | .translate source target =>
    on { s with space := s.space.map fun c =>
      ((source.zip target).reverse.lookup c).getD c }
  | .delete => (s, some .drop)
  | .deleteFirst =>
    match s.space.dropWhile (· != k.ending) with
    | [] => (s, some .drop)
    | _ :: r => ({ s with space := r }, some .again)
  | .print => on (s.writeLine k s.space)
  | .printFirst =>
    let t := s.space.takeWhile (· != k.ending)
    on (if t.length = s.space.length then s.writeLine k t else s.write k (t ++ [k.ending]))
  | .next =>
    if s.atLast then (s, some .print)
    else
      let s := (if k.quiet then s else s.writeLine k s.space).flush k
      match s.read? with
      | some (l, s) => on { s with space := l }
      | none => (s, some .print)
  | .join =>
    if s.atLast then (s, some .print)
    else
      match (s.flush k).read? with
      | some (l, s) => on { s with space := s.space ++ k.ending :: l }
      | none => (s, some .print)
  | .hold => on { s with held := s.space, heldEnded := s.ended }
  | .holdMore => on { s with held := s.held ++ k.ending :: s.space, heldEnded := s.ended }
  | .fetch => on { s with space := s.held, ended := s.heldEnded }
  | .fetchMore => on { s with space := s.space ++ k.ending :: s.held, ended := s.heldEnded }
  | .exchange =>
    on { s with space := s.held, ended := s.heldEnded, held := s.space, heldEnded := s.ended }
  | .number => on (s.write k (Text.ofNat s.number ++ ['\n']))
  | .name => on (s.write k (s.file ++ ['\n']))
  | .clear => on { s with space := [] }
  | .show width => on (s.write k (shownLine (width.getD k.width) 0 s.space))
  | .quit silently status => (s, some (.quit (!silently) status))
  | .insert t => on (s.write k t)
  | .append t => on { s with later := s.later ++ [.text t] }
  | .change t =>
    let inside := o.last.isSome && !o.negated && s.ranges.any (·.1 == place)
    (if inside then s else s.write k t, some .drop)
  | .readFile path => on { s with later := s.later ++ [.text (s.textOf k path)] }
  | .readLine path => on (s.lineOf k path)
  | .writeFile path => on (s.fileLine k path s.space)
  | .writeLine path =>
    let t := s.space.takeWhile (· != '\n')
    on ({ ({ s with ended := true }).fileLine k path t with ended := s.ended })
  | _ => on s

def EditState.run (k : EditManner) (os : List Order) :
    Nat → Nat → EditState → EditState × EditEnd
  | 0, _, s => (s, .quit false 4)
  | fuel + 1, place, s =>
    match os[place]? with
    | none => (s, .print)
    | some o =>
      match o.applies place s with
      | .error f => (s, .failed f)
      | .ok (yes, s) =>
        match o.edit, yes with
        | .opening, false =>
          EditState.run k os fuel (closingAfter 0 (place + 1) (os.drop (place + 1))) s
        | .jump name, true => EditState.run k os fuel (labelPlace os name) s
        | .jumpIf wanted name, true =>
          EditState.run k os fuel (if s.replaced = wanted then labelPlace os name else place + 1)
            { s with replaced := false }
        | _, false => EditState.run k os fuel (place + 1) s
        | _, true =>
          match s.step k o place with
          | (s, some e) => (s, e)
          | (s, none) => EditState.run k os fuel (place + 1) s

def editLines (k : EditManner) (os : List Order) : Nat → EditState →
    EditState × Except EditFault (Option Nat)
  | 0, s => (s, .ok (some 4))
  | fuel + 1, s =>
    let bound := (os.length + 1) * (s.left.length + s.space.length + 2) * 64
    let (s, e) := s.run k os bound 0
    let shown := fun (s : EditState) => if k.quiet then s else s.writeLine k s.space
    let more := fun (s : EditState) =>
      match (s.flush k).read? with
      | some (l, s) => editLines k os fuel { s with space := l, replaced := false }
      | none => (s.flush k, .ok none)
    match e with
    | .print => more (shown s)
    | .drop => more s
    | .again => editLines k os fuel (s.flush k)
    | .quit print status => ((if print then shown s else s).flush k, .ok (some status))
    | .failed f => (s, .error f)

/-! ## files -/

def editLinesOf (ending : Char) (file t : Text) : List EditLine :=
  let ls := (recordsOf ending t).map fun l => (⟨l, true, file⟩ : EditLine)
  if t.getLast? = some ending then ls
  else ls.dropLast ++ (ls.getLast?.map fun l => { l with ended := false }).toList

/-- the program done on groups of lines, each counted from one; what a group leaves is kept by
`after` -/
def editGroups (k : EditManner) (os : List Order) (after : Text → EditState → EditState) :
    List (Text × List EditLine) → EditState → EditState × Except EditFault (Option Nat)
  | [], s => (s, .ok none)
  | (file, ls) :: gs, s =>
    let s := { s with left := ls, number := 0, ranges := [] }
    let size := (ls.map fun l => l.text.length + 1).foldl (· + ·) 0
    let (s, r) := match s.read? with
      | none => (s, Except.ok none)
      | some (l, s) => editLines k os (16 * size + 64) { s with space := l, replaced := false }
    let s := after file s
    match r with
    | .ok none => editGroups k os after gs s
    | _ => (s, r)

/-- the path of the copy that is kept of a file -/
def backupPath (suffix path : Text) : Text :=
  let name := (path.splitOn '/').getLast?.getD path
  let front := path.take (path.length - name.length)
  let new := if '*' ∈ suffix then suffix.flatMap fun c => if c = '*' then name else [c]
    else name ++ suffix
  if '/' ∈ new then new else front ++ new

/-! ## the tool -/

def sedOptions : OptionTable :=
  { OptionTable.of "bnrsuzEᵖˢᵈʸ" "efl"
      [("quiet", 'n'), ("silent", 'n'), ("debug", 'ᵈ'), ("expression", 'e'), ("file", 'f'),
        ("follow-symlinks", 'ʸ'), ("in-place", 'i'), ("line-length", 'l'), ("posix", 'ᵖ'),
        ("regexp-extended", 'E'), ("separate", 's'), ("sandbox", 'ˢ'), ("unbuffered", 'u'),
        ("null-data", 'z'), ("zero-terminated", 'z'), ("binary", 'b')]
    with perhaps := "i" }

/-- the parts of the program that options name, from a number of expressions on -/
def sedParts (c : Call) (n : Nat) : List (Char × Option Text) →
    Except Text (List (EditOrigin × Text))
  | [] => .ok []
  | (l, v) :: gs =>
    let t := v.getD []
    if l = 'e' then (sedParts c (n + 1) gs).map ((.expression (n + 1), t) :: ·)
    else if l = 'f' then
      match c.read t with
      | .ok program =>
        let program := if program.getLast? = some '\n' then program.dropLast else program
        (sedParts c n gs).map ((.file t, program) :: ·)
      | .error f => .error ("couldn't open file " ++ t ++ ": " ++ f.reason.message)
    else sedParts c n gs

def asksForQuiet (t : Text) : Bool := t == "#n".toList || (Text.after? "#n\n" t).isSome

/-- the files that commands write to, which are made first -/
def filesToWrite (c : Call) (paths : List Text) : Except Text (List EditFile) :=
  let paths := paths.foldl (fun ps p => if ps.contains p then ps else ps ++ [p]) []
  let others := paths.filter fun p => p ≠ "/dev/stdout".toList ∧ p ≠ "/dev/stderr".toList
  others.mapM fun p =>
    let failed := fun (r : PathFault) =>
      Except.error (("couldn't open file " : Text) ++ p ++ ": " ++ r.message)
    match c.files.room p with
    | .error r => failed (if r = .taken then .directory else r)
    | .ok q => if c.files.at? q = some .directory then failed .directory else .ok ⟨p, [], false⟩

/-- the changes that putting texts into files makes -/
def changesOf (f : Files) (written : List EditFile) : List (Place × Option Node) :=
  written.filterMap fun w =>
    match f.room w.path with
    | .ok p =>
      match f.at? p with
      | some (.file _ runs) => some (p, some (.file w.text runs))
      | none => some (p, some (.file w.text false))
      | _ => none
    | .error _ => none

/-- the paths up to the first one where reading fails, and the complaint about that -/
def upToFailure (c : Call) : List (Text × Except ReadFault Text) →
    List (Text × Except ReadFault Text) × Option Text
  | [] => ([], none)
  | (p, x) :: ps =>
    match x with
    | .error ⟨true, reason⟩ =>
      let name : Text := if p = ['-'] then "stdin" else p
      ([], some (c.complaint ("read error on " ++ name ++ ": " ++ reason.message)))
    | _ => ((p, x) :: (upToFailure c ps).1, (upToFailure c ps).2)

/-- the files among paths that can be edited in place, with their texts, and the complaints about
the others; one that is no file ends all -/
def editable (c : Call) : List Text → List (Text × Text) × List Text × Bool
  | [] => ([], [], false)
  | p :: ps =>
    match c.files.find p with
    | .error r =>
      let (fs, cs, ended) := editable c ps
      (fs, c.complaint ("can't read " ++ p ++ ": " ++ r.message) :: cs, ended)
    | .ok (.file t _) =>
      let (fs, cs, ended) := editable c ps
      ((p, t) :: fs, cs, ended)
    | .ok _ => ([], [c.complaint ("couldn't edit " ++ p ++ ": not a regular file")], true)

def EditState.start (files : List EditFile) : EditState :=
  ⟨[], true, [], [], true, [], 0, [], [], false, [], files, [], false, [], none⟩

def sedEffect (c : Call) (left : Option Text) (complaints : List Text) (status : Nat)
    (s : EditState) (r : Except EditFault (Option Nat)) (more : List EditFile) : Effect :=
  let before := complaints.map fun t => (Stream.complaint, t)
  let last := match r with
    | .error f =>
      [(Stream.complaint, c.complaint ((EditOrigin.expression 1).shown 0 0 ++ f.message))]
    | .ok _ => []
  let full := s.files.any fun f =>
    f.text ≠ [] && c.files.find? f.path == some (.device .full)
  let lost :=
    if full then
      [(Stream.complaint, c.complaint "couldn't flush <unknown>: No space left on device")]
    else []
  ⟨left, before ++ lost ++ s.written.reverse ++ last, changesOf c.files (s.files ++ more),
    if full then 4
    else
      match r with
      | .error _ => 1
      | .ok (some n) => if n = 0 then status else n
      | .ok none => status⟩

def sedUsage : Text :=
  "Usage: sed [OPTION]... \x7bscript-only-if-no-other-script\x7d [input-file]...\n\n"

/-- a run of `sed` that is prepared: its options and operands, the program, the files that it writes
to, and the manner -/
structure Edition where
  options : Options
  operands : List Text
  orders : List Order
  files : List EditFile
  manner : EditManner

/-- the run that a call asks for, or what comes of the call if it asks for none -/
def Edition.of (c : Call) : Except Effect Edition :=
  match sedOptions.read none c.args with
  | .error f => .error ⟨none, [(.complaint, c.complaint f.message ++ sedUsage)], [], 1⟩
  | .ok o =>
    if o.has helpLetter || o.has versionLetter then .error (silent 0)
    else
      let options := o.has 'e' || o.has 'f'
      let given := if options then o.given else [('e', o.operands.head?)]
      let operands := if options then o.operands else o.operands.drop 1
      if !options ∧ o.operands = [] then .error ⟨none, [(.complaint, sedUsage)], [], 1⟩
      else
        match sedParts c 0 given with
        | .error what => .error (c.fail 4 what)
        | .ok parts =>
          match ordersOf ⟨o.has 'E' || o.has 'r', o.has 'ˢ'⟩ parts with
          | .error (what, status) => .error (c.fail status what)
          | .ok os =>
            match filesToWrite c (os.flatMap fun x => x.edit.files) with
            | .error what => .error (c.fail 4 what)
            | .ok files =>
              .ok {
                options := o, operands := operands, orders := os, files := files
                manner :=
                  { quiet := o.has 'n' || (parts.head?.any fun p => asksForQuiet p.2)
                    ending := if o.has 'z' then '\x00' else '\n'
                    width := ((o.value? 'l').bind number?).getD 70
                    inPlace := o.has 'i'
                    read := fun path =>
                      if isInput path && (operands = [] || operands.any isInput) then []
                      else (c.read path).toOption.getD [] } }

/-- the lines of files edited in their places -/
def Edition.inPlace (e : Edition) (c : Call) : Effect :=
  let k := e.manner
  let (found, complaints, ended) := editable c e.operands
  let groups := found.map fun f => (f.1, editLinesOf k.ending f.1 f.2)
  let keep := fun (path : Text) (s : EditState) =>
    let t := s.edited.reverse.flatten
      ++ s.left.flatMap fun l => l.text ++ if l.ended then [k.ending] else []
    { s with
      edited := [], owing := false
      files := s.files ++ [⟨path, t, false⟩] }
  let (s, r) := editGroups k e.orders keep groups (EditState.start e.files)
  let copies := match (e.options.value? 'i') with
    | some suffix => found.map fun f => ⟨backupPath suffix f.1, f.2, false⟩
    | none => []
  let status := if ended then 4 else if complaints = [] then 0 else 2
  sedEffect c none complaints status s r copies

def Edition.run (e : Edition) (texts : List (Text × Text)) :
    EditState × Except EditFault (Option Nat) :=
  let lines := texts.map fun f => (f.1, editLinesOf e.manner.ending f.1 f.2)
  let groups := if e.options.has 's' then lines else [([], lines.flatMap Prod.snd)]
  editGroups e.manner e.orders (fun _ s => s) groups (EditState.start e.files)

def sed : Tool := fun c =>
  match Edition.of c with
  | .error effect => effect
  | .ok e =>
    if e.manner.inPlace then
      if e.operands = [] then c.fail 1 "no input files" else e.inPlace c
    else
      let paths := pathsOf e.operands
      let (found, failure) := upToFailure c (c.readAll false paths)
      let complaints := found.filterMap fun f =>
        match f.2 with
        | .error r =>
          some (c.complaint ("can't read " ++ f.1 ++ ": " ++ r.reason.message))
        | .ok _ => none
      let (s, r) := e.run (found.filterMap fun f => f.2.toOption.map fun t => (f.1, t))
      let status := if failure.isSome then 4 else if complaints = [] then 0 else 2
      sedEffect c (leftBy paths) (complaints ++ failure.toList) status s r []

def Order.asksLast (o : Order) : Bool :=
  (match o.first with | some .last => true | _ => false)
    || (match o.last with | some (.address .last) => true | _ => false)

def sedPace (c : Call) : Pace :=
  match Edition.of c with
  | .error _ => Pace.whole
  | .ok e =>
    if e.operands ≠ [] ∨ e.orders.any Order.asksLast then Pace.whole
    else
      let quits := e.orders.any fun o => match o.edit with
        | .quit _ _ => true
        | _ => false
      { Pace.whole with
        flows := true
        enough := fun t => quits && match (e.run [([], t)]).2 with
          | .ok (some _) => true
          | _ => false
        block := 4096 }

def sedLoss : Loss := fun c b e =>
  match b with
  | .closed => e.lose (c.complaint "couldn't close stdout: Bad file descriptor") 4
  | .unwritable => { e with written := e.written.filter (·.1 = .complaint) }
  | _ =>
    if e.output = [] then e
    else e.lose (c.complaint ("couldn't flush stdout: " ++ b.message)) 4

end Shell
end CoroBridge
