import CoroBridge.Shell.Trial

/-!
# Command language: the language of `perl`, syntax

What a program for `perl` is made of.

* `Perl.Sigil`               the kinds of variables;
* `Perl.Expr`, `Perl.Stmt`   what has a value, and what is done.
-/

namespace CoroBridge
namespace Shell
namespace Perl

inductive Sigil where
  | scalar
  | array
  | hash
  deriving DecidableEq, Repr

abbrev Variable := Sigil × Text

/-- the ways in which a text is found and replaced: again and again, evaluated, as a new text, and in
what notation -/
structure MatchFlags where
  every : Bool
  evaluated : Bool
  fresh : Bool
  continued : Bool
  notation_ : Trial.Notation

/-- the ways in which characters are exchanged -/
structure ExchangeFlags where
  complement : Bool
  delete : Bool
  squeeze : Bool
  fresh : Bool

mutual

inductive Expr where
  | whole (n : Int)
  | number (x : Float)
  | text (t : Text)
  | word (t : Text)
  | join (parts : List Expr)
  | variable (x : Variable)
  | my (xs : List Variable) (list : Bool)
  | our (xs : List Variable) (list : Bool)
  | local_ (e : Expr)
  | item (array index : Expr)
  | entry (hash key : Expr)
  | items (array indices : Expr)
  | entries (hash keys : Expr)
  | pairs (hash keys : Expr)
  | listItems (list indices : Expr)
  | behind (kind : Sigil) (reference : Expr)
  | lastIndex (array : Expr)
  | list (es : List Expr)
  | newArray (es : List Expr)
  | newHash (es : List Expr)
  | newSub (body : List Stmt)
  | reference (e : Expr)
  | call (name : Text) (args : List Expr) (bare : Bool)
  | callBehind (f : Expr) (args : List Expr)
  | method (object : Expr) (name : Text) (args : List Expr)
  | use (name : Text) (args : List Expr)
  | blockUse (name : Text) (block : List Stmt) (args : List Expr)
  | unary (op : Text) (e : Expr)
  | binary (op : Text) (a b : Expr)
  | both (a b : Expr)
  | either (a b : Expr)
  | defined_ (a b : Expr)
  | choice (test yes no : Expr)
  | assign (op : Text) (a b : Expr)
  | step (early up : Bool) (e : Expr)
  | range (a b : Expr) (id : Nat)
  | match_ (subject : Option Expr) (negated : Bool) (pattern : Expr) (k : MatchFlags)
  | substitute (subject : Option Expr) (pattern replacement : Expr) (k : MatchFlags)
  | exchange (subject : Option Expr) (from_ dest : Text) (k : ExchangeFlags)
  | pattern (e : Expr) (k : Trial.Notation)
  | fits (negated : Bool) (subject pattern : Expr)
  | readLine (handle : Expr)
  | print (kind : Text) (handle : Option Expr) (args : List Expr)
  | fileTest (c : Char) (e : Expr)
  | block (ss : List Stmt)
  | attempt (ss : List Stmt)
  | back (e : Option Expr)
  | jump (kind label : Text)

inductive Stmt where
  | expr (line : Nat) (e : Expr)
  | test (line : Nat) (e : Expr) (yes no : List Stmt)
  | loop (line : Nat) (label : Text) (wanted late : Bool) (e : Option Expr)
      (body continued : List Stmt)
  | steps (line : Nat) (label : Text) (first test next : Option Expr) (body : List Stmt)
  | each (line : Nat) (label : Text) (x : Option (Bool × Text)) (e : Expr) (body : List Stmt)
  | bare (line : Nat) (label : Text) (body : List Stmt)
  | define (name : Text) (body : List Stmt)
  | package (name : Text)
  | final (body : List Stmt)

end

end Perl
end Shell
end CoroBridge
