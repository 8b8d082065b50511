import CoroBridge.Shell.Regex

/-!
# Command language: the language of `awk`, syntax

What a program for `awk` is made of.

* `Awk.Expr`, `Awk.Cell`     what has a value, and what keeps one;
* `Awk.Stmt`                 what is done;
* `Awk.Rule`, `Awk.Function`, `Awk.Code`   a whole program.
-/

namespace CoroBridge
namespace Shell
namespace Awk

inductive Operation where
  | add
  | subtract
  | multiply
  | divide
  | remain
  | power
  deriving DecidableEq, Repr

inductive Relation where
  | less
  | notMore
  | equal
  | unequal
  | more
  | notLess
  deriving DecidableEq, Repr

mutual

inductive Expr where
  | number (x : Float)
  | text (t : Text)
  | regex (r : Regex)
  | kept (c : Cell)
  | assign (op : Option Operation) (c : Cell) (e : Expr)
  | step (early up : Bool) (c : Cell)
  | operate (op : Operation) (a b : Expr)
  | negate (e : Expr)
  | numeric (e : Expr)
  | not (e : Expr)
  | join (a b : Expr)
  | compare (r : Relation) (a b : Expr)
  | fits (wanted : Bool) (a b : Expr)
  | both (a b : Expr)
  | either (a b : Expr)
  | choice (test yes no : Expr)
  | member (indices : List Expr) (table : Text)
  | call (function : Text) (args : List Expr)
  | use (builtin : Text) (args : List Expr)
  | substitute (every : Bool) (pattern replacement : Expr) (c : Option Cell)
  | split (subject : Expr) (table : Text) (separator : Option Expr)
  | sizeOf (name : Text)
  | readLine (source : Source) (into : Option Cell)

inductive Cell where
  | variable (name : Text)
  | element (table : Text) (indices : List Expr)
  | field (e : Expr)

/-- where lines are read: the input, a file, or what a command writes -/
inductive Source where
  | input
  | file (e : Expr)
  | command (e : Expr)

end

/-- where lines are written: a file that is written anew, the end of a file, or a command -/
inductive Outlet where
  | file
  | end_
  | command
  deriving DecidableEq, Repr

inductive Stmt where
  | expr (e : Expr)
  | print (args : List Expr) (target : Option (Outlet × Expr))
  | format (args : List Expr) (target : Option (Outlet × Expr))
  | block (ss : List Stmt)
  | test (e : Expr) (yes : Stmt) (no : Option Stmt)
  | loop (e : Expr) (body : Stmt)
  | lateLoop (body : Stmt) (e : Expr)
  | steps (first test next : Option Expr) (body : Stmt)
  | each (name table : Text) (body : Stmt)
  | leave
  | again
  | next
  | nextFile
  | exit (e : Option Expr)
  | back (e : Option Expr)
  | delete (table : Text) (indices : List Expr)

/-- the records for which something is done: all, those for which something holds, or those from one
to another -/
inductive Pattern where
  | all
  | test (e : Expr)
  | range (first last : Expr)

structure Rule where
  pattern : Pattern
  action : Option Stmt

structure Function where
  params : List Text
  body : Stmt

structure Code where
  start : List Stmt
  rules : List Rule
  finish : List Stmt
  functions : List (Text × Function)

end Awk
end Shell
end CoroBridge
