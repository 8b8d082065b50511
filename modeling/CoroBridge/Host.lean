import CoroBridge.Formatter

/-!
# Hosts

The programs that a formatter's name can stand for.

* `Program`       what a program makes of its arguments and its input;
* `Entry`         what stands at a path: a directory, a file that is no program, or a program;
* `Host`          the programs that are found by a bare name, the file tree, and a place in it;
* `Host.launch`   what comes of starting a program by name;
* `Host.plain`    a host with three small programs and no code formatter.
-/

namespace CoroBridge

abbrev Program := List Text → Bytes → Finish

/-- what stands at a path: a directory, a file that is no program, or a program -/
inductive Entry where
  | directory
  | data (content : Text)
  | program (run : Program)

/-- the programs that are found by a bare name, what stands at each absolute path, which is given
by its components, and the directory where the other paths begin -/
structure Host where
  commands : List (Text × Program)
  tree : List (List Text × Entry)
  here : List Text

/-- the greatest number of bytes in a file name -/
def longestName : Nat := 255

/-- the greatest number of bytes in a path -/
def longestPath : Nat := 4095

namespace Host

/-- what stands at a path, which may lead through no file -/
def entry? (h : Host) (walked : List Text) : List Text → Except SystemFault Entry
  | [] =>
    match h.tree.lookup walked with
    | some e => .ok e
    | none => .error .notFound
  | c :: cs =>
    match h.tree.lookup walked with
    | none => .error .notFound
    | some .directory =>
      if longestName < (Utf8.encode c).length then .error .nameTooLong
      else if c = [] ∨ c = ['.'] then h.entry? walked cs
      else if c = ['.', '.'] then h.entry? walked.dropLast cs
      else h.entry? (walked ++ [c]) cs
    | some _ => .error .notDirectory

def origin (h : Host) (path : Text) : List Text :=
  if path.head? = some '/' then [] else h.here

/-- the program that a name stands for: a name with a slash is a path, and so are the names of a
directory itself and of the one above; another name is looked up among the commands -/
def find? (h : Host) (name : Text) : Except SystemFault Program :=
  if '\x00' ∈ name then .error .zeroByte
  else if name = [] then .error .notFound
  else if '/' ∈ name ∨ name = ['.'] ∨ name = ['.', '.'] then
    if longestPath < (Utf8.encode name).length then .error .nameTooLong
    else
      match h.entry? (h.origin name) (name.splitOn '/') with
      | .ok (.program run) => .ok run
      | .ok _ => .error .permissionDenied
      | .error fault => .error fault
  else if longestName < (Utf8.encode name).length then .error .nameTooLong
  else
    match h.commands.lookup name with
    | some run => .ok run
    | none => .error .notFound

def launch (h : Host) (name : Text) (args : List Text) (input : Bytes) : Launch :=
  match h.find? name with
  | .ok run => .finished (run args input)
  | .error fault => .failed fault

def formatter (h : Host) (name : Text) : Formatter :=
  Formatter.ofLaunch name (h.launch name [styleArgument])

/-! ## a plain host -/

def silent (code : Nat) : Program := fun _ _ => ⟨.status code, [], []⟩

def echoing : Program := fun args _ =>
  ⟨.status 0, Utf8.encode (List.intercalate [' '] args ++ ['\n']), []⟩

def smallPrograms : List (Text × Program) :=
  [("true", silent 0), ("false", silent 1), ("echo", echoing)]

def plainDirectories : List (List Text) :=
  [[], ["bin"], ["dev"], ["etc"], ["home"], ["home", "work"], ["lib"], ["opt"], ["proc"],
   ["root"], ["run"], ["sbin"], ["sys"], ["tmp"], ["usr"], ["usr", "bin"], ["usr", "lib"],
   ["usr", "local"], ["usr", "local", "bin"], ["usr", "sbin"], ["usr", "share"], ["var"],
   ["var", "tmp"]]

def plainData : List (List Text × Text) :=
  [(["dev", "null"], ""), (["dev", "zero"], ""), (["dev", "full"], ""), (["dev", "random"], ""),
   (["dev", "urandom"], ""), (["dev", "tty"], ""),
   (["etc", "passwd"], "root:x:0:0:root:/root:/bin/bash\n"), (["etc", "group"], "root:x:0:\n"),
   (["etc", "shadow"], ""), (["etc", "hosts"], "127.0.0.1\tlocalhost\n"), (["etc", "hostname"], ""),
   (["etc", "fstab"], ""), (["etc", "resolv.conf"], ""), (["etc", "os-release"], "")]

/-- a host with three small programs and no code formatter -/
def plain : Host where
  commands := smallPrograms
  tree :=
    (plainDirectories.map fun p => (p, Entry.directory))
      ++ (plainData.map fun p => (p.1, Entry.data p.2))
      ++ (smallPrograms.map fun q => ([("bin" : Text), q.1], Entry.program q.2))
      ++ (smallPrograms.map fun q => ([("usr" : Text), "bin", q.1], Entry.program q.2))
  here := ["home", "work"]

end Host
end CoroBridge
