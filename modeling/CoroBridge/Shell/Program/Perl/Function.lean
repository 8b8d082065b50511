import CoroBridge.Shell.Program.Perl.Stream
import CoroBridge.Shell.Moment
import CoroBridge.Text.Lower

/-!
# Command language: the language of `perl`, functions

What functions do with values.

* `Perl.textFunction?`         functions on texts and numbers;
* `Perl.packed`, `Perl.unpacked`   values as bytes, and back;
* `Perl.givenFunction?`        functions that modules give;
* `Perl.Run.useFunction?`      functions that act on files, processes and signals.
-/

namespace CoroBridge
namespace Shell
namespace Perl

/-! ## texts and numbers -/

def isWide (t : Text) : Bool := t.any fun c => 255 < c.toNat

def upperText (t : Text) : Text := if isWide t then t.flatMap Text.upper else t.map Char.toUpper

def lowerText (t : Text) : Text := if isWide t then t.map Text.lower else t.map Char.toLower

def quotedSigns (t : Text) : Text :=
  t.flatMap fun c =>
    if isVariableChar c ∨ 128 ≤ c.toNat then [c] else ['\\', c]

/-- the first place at or after another one where a text stands in a text -/
def placeOf (t w : Text) : Nat → Nat → Option Nat
  | 0, _ => none
  | n + 1, k =>
    let r := t.drop k
    if w.isPrefixOf r then some k else if r = [] then none else placeOf t w n (k + 1)

def lastPlaceOf (t w : Text) : Nat → Option Nat
  | 0 => if w.isPrefixOf t then some 0 else none
  | k + 1 => if w.isPrefixOf (t.drop (k + 1)) then some (k + 1) else lastPlaceOf t w k

/-- the value of digits, perhaps after a sign of their base, which is eight without one -/
def octalValue (t : Text) : Value :=
  let t := (t.dropWhile isSpace).filter (· != '_')
  let run := fun (base : Nat) (r : Text) => (.whole (digitRun base r).1 : Value)
  match t with
  | '0' :: 'x' :: r => run 16 r
  | '0' :: 'X' :: r => run 16 r
  | 'x' :: r => run 16 r
  | '0' :: 'b' :: r => run 2 r
  | '0' :: 'B' :: r => run 2 r
  | 'b' :: r => run 2 r
  | '0' :: 'o' :: r => run 8 r
  | r => run 8 r

def hexValue (t : Text) : Value :=
  let t := t.filter (· != '_')
  match t with
  | '0' :: 'x' :: r => .whole (digitRun 16 r).1
  | '0' :: 'X' :: r => .whole (digitRun 16 r).1
  | r => .whole (digitRun 16 r).1

/-- a number without what stands after its point -/
def integral (v : Value) : Value :=
  match v.toNumber with
  | .number x =>
    if x - x != 0 then .number x
    else .ofWhole (Value.cutFloat x)
  | n => n

/-- the place and the length of a part of a text of some length, cut to what is there -/
def partOf (size : Nat) (first : Int) (length : Option Int) : Option (Nat × Nat) :=
  let size : Int := size
  let begin_ : Int := if first < 0 then size + first else first
  let end_ : Int := match length with
    | none => size
    | some n => if n < 0 then size + n else begin_ + n
  if begin_ > size then none
  else
    let begin_ := max 0 begin_
    some (begin_.toNat, (min end_ size - begin_).toNat)

def textFunction? (name : Text) (vs : List Value) : Option Value :=
  let v := vs.headD .absent
  let t := v.toText
  let w := (vs.drop 1).headD .absent
  match String.ofList name with
  | "lc" => some (.text (lowerText t))
  | "fc" => some (.text (lowerText t))
  | "uc" => some (.text (upperText t))
  | "lcfirst" => some (.text (lowerText (t.take 1) ++ t.drop 1))
  | "ucfirst" => some (.text (upperText (t.take 1) ++ t.drop 1))
  | "length" => some (if v.isDefined then .count t.length else .absent)
  | "chr" => some (.text [Char.ofNat v.toCount])
  | "ord" => some (.count ((t.head?.map Char.toNat).getD 0))
  | "int" => some (integral v)
  | "hex" => some (hexValue t)
  | "oct" => some (octalValue t)
  | "abs" =>
    some (match v.toNumber with
      | .whole n => .ofWhole n.natAbs
      | n => .number n.toFloat.abs)
  | "sqrt" => some (.number v.toFloat.sqrt)
  | "log" => some (.number v.toFloat.log)
  | "exp" => some (.number v.toFloat.exp)
  | "sin" => some (.number v.toFloat.sin)
  | "cos" => some (.number v.toFloat.cos)
  | "atan2" => some (.number (Float.atan2 v.toFloat w.toFloat))
  | "quotemeta" => some (.text (quotedSigns t))
  | "index" =>
    let k := ((vs.drop 2).head?.map Value.toCount).getD 0
    some (match placeOf t w.toText (t.length + 1) (min k t.length) with
      | some k => .count k
      | none => .whole (-1))
  | "rindex" =>
    let k := ((vs.drop 2).head?.map Value.toCount).getD t.length
    some (match lastPlaceOf t w.toText (min k t.length) with
      | some k => .count k
      | none => .whole (-1))
  | "join" => some (.text (List.intercalate t ((vs.drop 1).map Value.toText)))
  | "sprintf" => some (.text (formatted (vs.drop 1) (t.length + 1) (vs.drop 1) t))
  | "substr" =>
    some (match partOf t.length w.toWhole ((vs.drop 2).head?.map Value.toWhole) with
      | some (first, size) => .text ((t.drop first).take size)
      | none => .absent)
  | "ref" => none
  | _ => none

/-! ## bytes -/

def bytesOf (big : Bool) (size : Nat) (n : Int) : Text :=
  let m := (n % Int.pow 2 (8 * size)).toNat
  let bs := (List.range size).map fun k => Char.ofNat (m / Nat.pow 2 (8 * k) % 256)
  if big then bs.reverse else bs

def numberOf (big signed : Bool) (t : Text) : Value :=
  let n := (if big then t else t.reverse).foldl (fun (n : Nat) (c : Char) => n * 256 + c.toNat) 0
  if signed ∧ Nat.pow 2 (8 * t.length - 1) ≤ n ∧ t ≠ [] then
    .whole ((n : Int) - (Nat.pow 2 (8 * t.length) : Nat))
  else .whole n

/-- the size of a number, whether its greatest byte comes first and whether it has a sign -/
def numberKind? : Char → Option (Nat × Bool × Bool)
  | 'n' => some (2, true, false)
  | 'N' => some (4, true, false)
  | 'v' => some (2, false, false)
  | 'V' => some (4, false, false)
  | 'C' => some (1, false, false)
  | 'c' => some (1, false, true)
  | 's' => some (2, false, true)
  | 'S' => some (2, false, false)
  | 'l' => some (4, false, true)
  | 'L' => some (4, false, false)
  | 'i' => some (4, false, true)
  | 'I' => some (4, false, false)
  | 'q' => some (8, false, true)
  | 'Q' => some (8, false, false)
  | _ => none

/-- a letter of a template with its count, where none stands for a star, and what follows -/
def templateItem (t : Text) : Option (Char × Bool × Option (Option Nat) × Text) :=
  match t.dropWhile isSpace with
  | [] => none
  | c :: r =>
    let big := r.head? = some '>'
    let r := r.dropWhile fun c => c == '<' || c == '>' || c == '!'
    match r with
    | '*' :: r => some (c, big, some none, r)
    | r =>
      let d := r.takeWhile Char.isDigit
      some (c, big, (number? d).map some, r.drop d.length)

def digitByte (base : Nat) (low : Bool) (t : Text) : Char :=
  let t := if low then t.reverse else t
  Char.ofNat (t.foldl (fun n c => n * base + (digit? base c).getD 0) 0)

def digitBytes (base width : Nat) (low : Bool) : Nat → Text → Text
  | 0, _ => []
  | n + 1, t =>
    if t = [] then []
    else
      let p := t.take width
      digitByte base low (p ++ List.replicate (width - p.length) '0')
        :: digitBytes base width low n (t.drop width)

def packed : Nat → Text → List Value → Text
  | 0, _, _ => []
  | n + 1, t, vs =>
    match templateItem t with
    | none => []
    | some (c, big, count, r) =>
      let v := vs.headD .absent
      let textual := fun (t : Text) => t ++ packed n r (vs.drop 1)
      let fixed := fun (filler : Char) (t : Text) =>
        match count with
        | some none => t
        | some (some k) => t.take k ++ List.replicate (k - t.length) filler
        | none => t.take 1 ++ List.replicate (1 - t.length) filler
      match c with
      | 'A' => textual (fixed ' ' v.toText)
      | 'a' => textual (fixed '\x00' v.toText)
      | 'Z' =>
        textual (match count with
          | some (some k) => fixed '\x00' (v.toText.take (k - 1))
          | _ => v.toText ++ ['\x00'])
      | 'H' => textual (digitBytes 16 2 false (t.length + v.toText.length) v.toText)
      | 'h' => textual (digitBytes 16 2 true (t.length + v.toText.length) v.toText)
      | 'B' => textual (digitBytes 2 8 false (t.length + v.toText.length) v.toText)
      | 'b' => textual (digitBytes 2 8 true (t.length + v.toText.length) v.toText)
      | 'x' =>
        List.replicate ((count.map fun k => k.getD 0).getD 1) '\x00' ++ packed n r vs
      | c =>
        let times := match count with
          | none => 1
          | some none => vs.length
          | some (some k) => k
        let one : Value → Text := fun v =>
          if c = 'U' ∨ c = 'W' then [Char.ofNat v.toCount]
          else
            match numberKind? c with
            | some (size, high, _) => bytesOf (high || big) size v.toWhole
            | none => []
        (vs.take times).flatMap one ++ packed n r (vs.drop times)

def bytesDigits (base width : Nat) (low : Bool) (t : Text) : Text :=
  t.flatMap fun c =>
    let d := inBase base c.toNat
    let d := List.replicate (width - d.length) '0' ++ d
    if low then d.reverse else d

def unpacked : Nat → Text → Text → List Value
  | 0, _, _ => []
  | n + 1, t, u =>
    match templateItem t with
    | none => []
    | some ('(', _, _, _) =>
      let inner := (t.dropWhile (· != '(')).drop 1
      let item := inner.takeWhile (· != ')')
      let after := inner.drop (item.length + 1)
      let times := match after with
        | '*' :: _ => u.length
        | r => (number? (r.takeWhile Char.isDigit)).getD 1
      let rec groups : Nat → Text → List Value
        | 0, _ => []
        | k + 1, u =>
          if u = [] then []
          else
            match templateItem item with
            | some (_, _, some (some size), _) =>
              unpacked n item (u.take size) ++ groups k (u.drop size)
            | _ => unpacked n item (u.take 1) ++ groups k (u.drop 1)
      groups times u
    | some (c, big, count, r) =>
      let size := match count with
        | some none => u.length
        | some (some k) => k
        | none => 1
      let piece := u.take size
      let textual := fun (t : Text) => .text t :: unpacked n r (u.drop size)
      match c with
      | 'A' =>
        textual (piece.reverse.dropWhile fun c => isSpace c || c == '\x00').reverse
      | 'a' => textual piece
      | 'Z' => textual (piece.takeWhile (· != '\x00'))
      | 'x' => unpacked n r (u.drop size)
      | 'H' =>
        let d := match count with
          | some none => 2 * u.length
          | some (some k) => k
          | none => 1
        .text ((bytesDigits 16 2 false u).take d) :: unpacked n r (u.drop ((d + 1) / 2))
      | 'B' =>
        let d := match count with
          | some none => 8 * u.length
          | some (some k) => k
          | none => 1
        .text ((bytesDigits 2 8 false u).take d) :: unpacked n r (u.drop ((d + 7) / 8))
      | 'b' =>
        let d := match count with
          | some none => 8 * u.length
          | some (some k) => k
          | none => 1
        .text ((bytesDigits 2 8 true u).take d) :: unpacked n r (u.drop ((d + 7) / 8))
      | c =>
        let (width, high, signed) :=
          if c = 'U' ∨ c = 'W' then (1, true, false) else (numberKind? c).getD (1, true, false)
        let times := match count with
          | some none => u.length / width
          | some (some k) => min k (u.length / width)
          | none => min 1 (u.length / width)
        (List.range times).map (fun k =>
          numberOf (high || big) signed ((u.drop (k * width)).take width))
          ++ unpacked n r (u.drop (times * width))

/-! ## time -/

def momentValues (m : Moment) : List Value :=
  [.count m.second, .count m.minute, .count m.hour, .count m.day, .count m.month,
    .whole (m.year - 1900), .count m.weekDay, .count m.yearDay, .whole 0]

/-- the time in seconds of parts given as values -/
def secondsOf (vs : List Value) : Int :=
  let at_ := fun (k : Nat) => (vs.getD k .absent).toWhole
  let year := 1900 + at_ 5
  let passed : Nat := ((Moment.monthDays year).take (at_ 4).toNat).foldl (· + ·) 0
  let days := Moment.daysBefore year + passed + at_ 3 - 1
  days * 86400 + at_ 2 * 3600 + at_ 1 * 60 + at_ 0

/-! ## functions of modules -/

def withoutTabs : Nat → Text → Text
  | _, [] => []
  | _, '\n' :: r => '\n' :: withoutTabs 0 r
  | k, '\t' :: r => List.replicate (8 - k % 8) ' ' ++ withoutTabs 0 r
  | k, c :: r => c :: withoutTabs (k + 1) r

def distinctValues (vs : List Value) : List Value :=
  (vs.foldl (fun (seen : List Value) v =>
    if seen.any (fun w => w.toText == v.toText) then seen else v :: seen) []).reverse

def sumOf (vs : List Value) : Value :=
  vs.foldl (fun a b => combined (· + ·) (· + ·) a b) (.whole 0)

def bestOf (better : Value → Value → Bool) : List Value → Value
  | [] => .absent
  | v :: vs => vs.foldl (fun a b => if better b a then b else a) v

/-- a part of a path after its last slash, or before it -/
def pathPart (last : Bool) (path : Text) : Text :=
  let trimmed := if path.all (· == '/') then path else Files.trimSlashes path
  let name := (trimmed.reverse.takeWhile (· != '/')).reverse
  if last then name
  else
    let front := trimmed.take (trimmed.length - name.length)
    if front = [] then ['.'] else if front.all (· == '/') then ['/'] else Files.trimSlashes front

def givenFunction? (name : Text) (vs : List Value) : Option (List Value) :=
  let v := vs.headD .absent
  let w := (vs.drop 1).headD .absent
  let one := fun (v : Value) => some [v]
  match String.ofList name with
  | "sum" => one (if vs.isEmpty then .absent else sumOf vs)
  | "sum0" => one (sumOf vs)
  | "product" => one (vs.foldl (fun a b => combined (· * ·) (· * ·) a b) (.whole 1))
  | "min" => one (bestOf (fun a b => numberOrder a b == some .lt) vs)
  | "max" => one (bestOf (fun a b => numberOrder a b == some .gt) vs)
  | "minstr" => one (bestOf (fun a b => textOrder a b == .lt) vs)
  | "maxstr" => one (bestOf (fun a b => textOrder a b == .gt) vs)
  | "uniq" => some (distinctValues vs)
  | "uniqnum" => some (distinctValues vs)
  | "uniqstr" => some (distinctValues vs)
  | "shuffle" => some vs
  | "head" =>
    let n := v.toWhole
    let rest := vs.drop 1
    some (rest.take (if n < 0 then rest.length - n.natAbs else n.toNat))
  | "looks_like_number" =>
    one (.ofBool (match v with
      | .text t => Value.looksNumeric t
      | .absent => false
      | v => !v.isReference))
  | "floor" => one (.number v.toFloat.floor)
  | "ceil" => one (.number v.toFloat.ceil)
  | "round" => one (.number v.toFloat.round)
  | "fmod" =>
    let y := w.toFloat
    let q := v.toFloat / y
    one (.number (v.toFloat - y * (if q < 0 then q.ceil else q.floor)))
  | "pow" => one (.number (Float.pow v.toFloat w.toFloat))
  | "strftime" =>
    one (.text ((Moment.of (secondsOf (vs.drop 1))).formatted (v.toText.length + 1) v.toText))
  | "toupper" => one (.text (upperText v.toText))
  | "tolower" => one (.text (lowerText v.toText))
  | "encode_utf8" => one (.text (octetsOf v.toText))
  | "decode_utf8" => one (.text (Run.decoded v.toText))
  | "encode" =>
    one (.text (if Run.asksEncoding v.toText then octetsOf w.toText else w.toText))
  | "decode" =>
    one (.text (if Run.asksEncoding v.toText then Run.decoded w.toText else w.toText))
  | "expand" => some (vs.map fun v => .text (withoutTabs 0 v.toText))
  | "basename" =>
    let n := pathPart true v.toText
    one (.text (match (vs.drop 1).find? fun s => s.toText != [] && s.toText.isSuffixOf n with
      | some s => n.take (n.length - s.toText.length)
      | none => n))
  | "dirname" => one (.text (pathPart false v.toText))
  | "timegm" => one (.whole (secondsOf vs))
  | "timelocal" => one (.whole (secondsOf vs))
  | "mktime" => one (.whole (secondsOf vs))
  | "INT_MAX" => one (.whole 2147483647)
  | "DBL_MAX" => one (.number 1.7976931348623157e308)
  | "LOCK_EX" => one (.whole 2)
  | "LOCK_SH" => one (.whole 1)
  | "SEEK_SET" => one (.whole 0)
  | "EINTR" => one (.whole 4)
  | "ENOENT" => one (.whole 2)
  | "WNOHANG" => one (.whole 1)
  | "PI" => none
  | _ => none

/-! ## functions that act -/

namespace Run

def firstTime : Nat := 1700000000

def now : Run Nat := return firstTime * 1000000 + (← act get).now

def change (p : Place) (n : Option Node) : Run Unit :=
  act (modify fun s => { s with files := s.files.change p n })

def countGood (f : Value → Run Bool) (vs : List Value) : Run (List Value) := do
  let good ← vs.filterM f
  return [.count good.length]

/-- the tree of files changed, if that can be -/
def changeTree (f : Files → Except PathFault Files) : Run Bool := do
  match f (← act get).files with
  | .ok files =>
    act (modify fun s => { s with files := files })
    return true
  | .error e =>
    setPathFault e
    return false

def signalOf? (v : Value) : Option (Bool × Nat) :=
  match v with
  | .text t =>
    let (group, t) := match t with
      | '-' :: t => (true, t)
      | t => (false, t)
    (Signal.number? ((Text.after? "SIG" t).getD t)).map (group, ·)
  | v => some (v.toWhole < 0, v.toWhole.natAbs)

/-- a signal sent; the number of those that get it -/
def send (signal : Value) (receivers : List Value) : Run (List Value) := do
  match signalOf? signal with
  | none => fail ("Unrecognized signal name \"" ++ signal.toText ++ "\"")
  | some (_, k) =>
    let s ← act get
    let good := receivers.filter fun v =>
      let n := v.toWhole
      (s.process? n.natAbs).isSome || n.toNat == 1 || n.toNat + 1 == firstProcess
    for v in good do
      if k ≠ 0 then act (Act.post v.toWhole.natAbs k)
    if good.length < receivers.length then setFault 3 "No such process"
    if k ≠ 0 ∧ good ≠ [] then act (Act.turn 1)
    return [.count good.length]

/-- a pause, which a signal may end; the seconds that have passed -/
def sleep (time : Nat) : Run Nat := do
  let before := (← act get).now
  act (Act.pause ⟨fun _ => false, some time, true⟩)
  return (← act get).now - before

/-- a signal to this process after some time; `none` calls off the one before -/
def alarm (time : Nat) : Run Unit := do
  let me := (← act get).process
  match ← sign '\x01' with
  | .whole old => if (← act get).lives old.toNat then act (Act.post old.toNat 9)
  | _ => pure ()
  if time ≠ 0 then
    let id ← act (Act.fork (fun s => { s with descriptors := [], kept := [] }) do
      Act.turn time
      Act.post me 14
      Act.exit 0)
    act (modify fun s =>
      { s with toWorld := s.toWorld.changeProcess id fun p => { p with parent := 1 } })
    setSign '\x01' (.count id)

def fileTest (c : Char) (v : Value) : Run Value := do
  let s ← act get
  match v with
  | .handle name =>
    if c = 't' then return .ofBool false
    else if c = 'e' ∨ c = 'r' ∨ c = 'w' then return .ofBool (← file? name).isSome
    else return .ofBool (c == 'p')
  | v =>
    match s.files.find v.toText with
    | .error f =>
      setPathFault f
      return .absent
    | .ok n =>
      let isFile : Bool := n matches .file _ _ || n matches .program _
      let size := match n with
        | .file t _ => t.length
        | .directory => 4096
        | .program _ => 1
        | _ => 0
      match c with
      | 'e' => return .ofBool true
      | 'f' => return .ofBool isFile
      | 'd' => return .ofBool (n matches .directory)
      | 'p' => return .ofBool (n matches .fifo)
      | 'c' => return .ofBool (n matches .device _)
      | 's' => return if size = 0 then .text [] else .count size
      | 'z' => return .ofBool (size == 0)
      | 'x' => return .ofBool (match n with
        | .file _ runs => runs
        | .directory => true
        | .program _ => true
        | _ => false)
      | 'r' => return .ofBool true
      | 'w' => return .ofBool true
      | 'o' => return .ofBool true
      | 'T' => return .ofBool isFile
      | 'M' => return .whole 0
      | _ => return .text []

def plainNames (t : Text) : List Value :=
  ((t.splitBy fun a b => isSpace a == isSpace b).filter fun w => !w.all isSpace).map .text

def chance : Run Float := do
  let s := ((← seen (·.seed)) * 6364136223846793005 + 1442695040888963407) % Nat.pow 2 64
  modify fun m => { m with seed := s }
  return Float.ofNat (s / Nat.pow 2 11) / 9007199254740992

def useFunction? (h : Helpers) (list : Bool) (name : Text) (vs : List Value) :
    Run (Option (List Value)) := do
  let v := vs.headD .absent
  let good := fun (b : Bool) => (pure (some [.ofBool b]) : Run (Option (List Value)))
  let one := fun (v : Value) => (pure (some [v]) : Run (Option (List Value)))
  match String.ofList name with
  | "time" => one (.count ((← now) / 1000000))
  | "times" => return some [.number 0.01, .number 0, .number 0, .number 0]
  | "exit" => throw (.exit (v.toWhole % 256).toNat)
  | "unlink" => return some (← countGood (fun w => changeTree (·.unlinked w.toText)) vs)
  | "mkdir" => good (← changeTree (·.withDirectory v.toText))
  | "rmdir" => good (← changeTree (·.withoutDirectory v.toText))
  | "rename" => good (← changeTree (·.renamed v.toText ((vs.drop 1).headD .absent).toText))
  | "chmod" =>
    let runs := (v.toCount / 64) % 2 == 1
    return some (← countGood (fun w => do
      let files := (← act get).files
      match files.find w.toText, files.place w.toText with
      | .ok (.file t _), .ok p =>
        change p (some (.file t runs))
        return true
      | .ok _, _ => return true
      | .error f, _ =>
        setPathFault f
        return false) (vs.drop 1))
  | "chdir" =>
    let path := if v.isDefined then v.toText else "/root".toList
    let files := (← act get).files
    match files.find path, files.place path with
    | .ok .directory, .ok p =>
      act (modify fun s => { s with files := { s.files with here := p } })
      good true
    | .ok _, _ =>
      setPathFault .notDirectory
      good false
    | .error f, _ =>
      setPathFault f
      good false
  | "umask" => one (.count (← act get).mask)
  | "kill" => return some (← send v (vs.drop 1))
  | "getppid" => one (.count (← act get).parent)
  | "system" =>
    let e ← command h (vs.map Value.toText)
    one e
  | "exec" =>
    flushAll
    exportAll
    let words := vs.map Value.toText
    if ← isThere words then
      act (do
        modify Act.withoutOwn
        commandAct h words
        Act.exit (← get).status)
      return some []
    else good false
  | "readpipe" =>
    match ← outputOf h v.toText with
    | none => return some (if list then [] else [.absent])
    | some t =>
      if list then return some ((piecesOf '\n' t).map .text) else one (.text t)
  | "fork" =>
    flushAll
    act fun s k =>
      .forks { s with jobs := [] } (fun s => k (.ok (some [.whole 0])) s) s
        fun n s => k (.ok (some [.count n])) s
  | "wait" =>
    useWait (← act get)
  | "waitpid" =>
    let s ← act get
    if v.toWhole < 0 then useWait s
    else if (s.process? v.toCount).any fun p => p.parent == s.process then
      setSign '?' (.whole (statusValue (← act (Act.join v.toCount))))
      one v
    else one (.whole (-1))
  | "sleep" => one (.count ((← sleep (v.toCount * 1000000)) / 1000000))
  | "usleep" => one (.count (← sleep v.toCount))
  | "alarm" =>
    alarm (v.toFloat * 1000000).toUInt64.toNat
    one (.whole 0)
  | "localtime" => broken v
  | "gmtime" => broken v
  | "rand" =>
    let most := v.toFloat
    one (.number ((← chance) * (if most == 0 then 1 else most)))
  | "srand" =>
    modify fun m => { m with seed := v.toCount }
    one v
  | "glob" => return some (plainNames v.toText)
  | "pack" =>
    one (.text (packed (v.toText.length + 1) v.toText (vs.drop 1)))
  | "unpack" =>
    let r := unpacked (v.toText.length + 1) v.toText ((vs.drop 1).headD .absent).toText
    return some (if list then r else r.take 1)
  | "getcwd" => one (.text (Files.path (← act get).files.here))
  | "cwd" => one (.text (Files.path (← act get).files.here))
  | "_exit" => act (Act.exit (v.toWhole % 256).toNat)
  | "readlink" => one .absent
  | "symlink" => good false
  | "utime" => one (.count (vs.length - 2))
  | "flock" => good true
  | "lock" => good true
  | "study" => good true
  | _ => return none
where
  /-- any process that this one has made awaited -/
  useWait (s : State) : Run (Option (List Value)) := do
    if s.processes.any fun p => p.parent == s.process then
      act (Act.await fun w => w.processes.any fun p => p.parent == s.process && p.ending.isSome)
      let s ← act get
      match s.processes.find? fun p => p.parent == s.process && p.ending.isSome with
      | some p =>
        setSign '?' (.whole (statusValue (← act (Act.join p.id))))
        return some [.count p.id]
      | none => return some [.whole (-1)]
    else return some [.whole (-1)]
  /-- a time in its parts -/
  broken (v : Value) : Run (Option (List Value)) := do
    let t : Int ← if v.isDefined then pure v.toWhole else do pure ((← now) / 1000000 : Nat)
    let m := Moment.of t
    return some (if list then momentValues m else [.text m.usual])

end Run
end Perl
end Shell
end CoroBridge
