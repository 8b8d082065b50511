import CoroBridge.Shell.Tool.Options

/-!
# Command language: pieces in files

The tool `split` puts the pieces of what it reads into files of their own.

* `Split.Measure`      how long pieces are;
* `Split.pieces`       the pieces of a text;
* `Split.suffix?`      the ending of a file's name by its number;
* `split`              the tool.
-/

namespace CoroBridge
namespace Shell
namespace Split

inductive Measure where
  | lines (n : Nat)
  | bytes (n : Nat)
  | linesOf (bytes : Nat)
  | parts (n : Nat) (whole : Bool)
  | turns (n : Nat)
  deriving DecidableEq, Repr

def grouped (n : Nat) : Nat → List Text → List Text
  | 0, _ => []
  | fuel + 1, ls => if ls = [] then [] else (ls.take n).flatten :: grouped n fuel (ls.drop n)

def cut (n : Nat) : Nat → Text → List Text
  | 0, _ => []
  | fuel + 1, t => if t = [] then [] else t.take n :: cut n fuel (t.drop n)

/-- records put together up to a number of bytes; those that are longer are cut -/
def packed (n : Nat) : Text → List Text → List Text
  | piece, [] => if piece = [] then [] else [piece]
  | piece, l :: ls =>
    if piece.length + l.length ≤ n then packed n (piece ++ l) ls
    else
      let front := if piece = [] then [] else [piece]
      let parts := cut n (l.length + 1) l
      front ++ parts.dropLast ++ packed n (parts.getLast?.getD []) ls

def pieces (m : Measure) (ending : Char) (t : Text) : List Text :=
  let records := piecesOf ending t
  match m with
  | .lines n => grouped n (records.length + 1) records
  | .bytes n => cut n (t.length + 1) t
  | .linesOf n => packed n [] records
  | .parts n whole =>
    let size := t.length / n
    let ends := (List.range n).map fun i => if i + 1 = n then t.length else (i + 1) * size
    if whole then
      let starts := (records.foldl (fun (r : List (Nat × Text) × Nat) l =>
        (r.1 ++ [(r.2, l)], r.2 + l.length)) ([], 0)).1
      (List.range n).map fun i =>
        let low := if i = 0 then 0 else ends.getD (i - 1) 0
        ((starts.filter fun s => low ≤ s.1 && s.1 < ends.getD i 0).map Prod.snd).flatten
    else
      (List.range n).map fun i =>
        let low := if i = 0 then 0 else ends.getD (i - 1) 0
        (t.drop low).take (ends.getD i 0 - low)
  | .turns n =>
    (List.range n).map fun i =>
      ((records.zipIdx.filter fun r => r.2 % n == i).map Prod.fst).flatten

def digitsIn (alphabet : Text) (places n : Nat) : Text :=
  (List.range places).reverse.map fun i =>
    alphabet.getD (n / Nat.pow alphabet.length i % alphabet.length) 'a'

def suffix? (alphabet : Text) (length : Option Nat) (n : Nat) : Option Text :=
  let base := alphabet.length
  match length with
  | some l => if n < Nat.pow base l then some (digitsIn alphabet l n) else none
  | none =>
    let first := base * base - base
    let last := alphabet.getLast?.getD 'z'
    if n < first then some (digitsIn alphabet 2 n)
    else
      let m := n - first
      let second := (base - 1) * base * base
      if m < second then some (last :: digitsIn alphabet 3 m)
      else some (last :: last :: digitsIn alphabet 4 (m - second))

end Split

def splitOptions : OptionTable :=
  { OptionTable.of "eu" "abClnt" [("suffix-length", 'a'), ("bytes", 'b'), ("line-bytes", 'C'),
      ("elide-empty-files", 'e'), ("lines", 'l'), ("number", 'n'), ("separator", 't'),
      ("numeric-suffixes", 'd'), ("hex-suffixes", 'x'), ("additional-suffix", 'A'),
      ("verbose", 'V'), ("unbuffered", 'u'), ("filter", 'F')]
    with perhaps := "dx", valued := "abClntAF" }

/-- how long the pieces are that options ask for -/
def splitMeasure (c : Call) (o : Options) : Except Effect Split.Measure :=
  let wrong := fun (what v : Text) => Except.error (c.fail 1 ("invalid number of " ++ what ++ ": "
    ++ quoted v))
  match o.given.filter fun g => "lbCn".toList.contains g.1 with
  | [] => .ok (.lines 1000)
  | _ :: _ :: _ => .error (c.misused 1 "cannot split in more than one way")
  | [(x, v)] =>
    let v := v.getD []
    match x with
    | 'l' =>
      match size? v with
      | some n => if n = 0 then wrong "lines" v else .ok (.lines n)
      | none => wrong "lines" v
    | 'n' =>
      let (kind, d) := match v with
        | 'l' :: '/' :: r => (1, r)
        | 'r' :: '/' :: r => (2, r)
        | r => (0, r)
      match number? d with
      | some n =>
        if n = 0 then wrong "chunks" v
        else .ok (if kind = 2 then .turns n else .parts n (kind == 1))
      | none => wrong "chunks" d
    | _ =>
      match size? v with
      | some n => if n = 0 then wrong "bytes" v else .ok (if x = 'b' then .bytes n else .linesOf n)
      | none => wrong "bytes" v

def split : Tool := fun c =>
  c.withOptions splitOptions 1 fun o =>
    match splitMeasure c o with
    | .error e => e
    | .ok m =>
      match o.operands with
      | _ :: _ :: extra :: _ => c.misused 1 ("extra operand " ++ quoted extra)
      | operands =>
        let path := operands.headD ['-']
        let front := operands.getD 1 ['x']
        let alphabet : Text := match o.last? "dx" with
          | some 'd' => "0123456789"
          | some _ => "0123456789abcdef"
          | none => "abcdefghijklmnopqrstuvwxyz"
        let start := ((o.value? 'd' <|> o.value? 'x').bind number?).getD 0
        let ending := match o.value? 't' with
          | some ['\\', '0'] => '\x00'
          | some (x :: _) => x
          | _ => '\n'
        match c.read path with
        | .error f =>
          let what : Text := if f.opened then shownName path ++ ": " ++ f.reason.message
            else "cannot open " ++ shownAlways path ++ " for reading: " ++ f.reason.message
          c.fail 1 what
        | .ok t =>
          let ps := Split.pieces m ending t
          let ps := if o.has 'e' then ps.filter (· ≠ []) else ps
          let length := match (o.value? 'a').bind number?, m with
            | some 0, _ => none
            | some n, _ => some n
            | none, .parts n _ =>
              some (max 2 (Nat.toDigits alphabet.length (n - 1)).length)
            | none, _ => if start = 0 then none else some 2
          let e := (ps.zipIdx start).foldl (fun (r : Effect × Files) (p : Text × Nat) =>
            if r.1.status ≠ 0 then r
            else
              match Split.suffix? alphabet length p.2 with
              | none =>
                ({ r.1 with
                  status := 1
                  written := r.1.written
                    ++ [(.complaint, c.complaint "output file suffixes exhausted")] }, r.2)
              | some suffix =>
                let name := front ++ suffix ++ (o.value? 'A').getD []
                match r.2.room name with
                | .error f =>
                  ({ r.1 with
                    status := 1
                    written := r.1.written
                      ++ [(.complaint, c.complaint (shownName name ++ ": " ++ f.message))] }, r.2)
                | .ok q =>
                  let told := if o.has 'V' then
                      [(Stream.output, "creating file " ++ shownAlways name ++ ['\n'])]
                    else []
                  let node := some (Node.file p.1 false)
                  ({ r.1 with
                    written := r.1.written ++ told, changes := r.1.changes ++ [(q, node)] },
                    r.2.change q node))
            ((⟨leftBy [path], [], [], 0⟩ : Effect), c.files)
          e.1

end Shell
end CoroBridge
