import CoroBridge.Text.Blank

/-!
# Headers

What every generated file begins with.

* `noticeOf`      the notice that a documentation text ends with;
* `commentBlock`  the same as lines in the middle of a block comment;
* `toolDoc`       the documentation of the generator;
* `header`        the comment that names the generator and carries its notice, and the includes.
-/

namespace CoroBridge

/-- the notice of a documentation text: what stands from its last mention of copyright on, or all
of it if there is none, without the blanks at the ends -/
def noticeOf (doc : Text) : Text := ((Text.fromLast? "Copyright" doc).getD doc).trim

/-- a line in the middle of a block comment; an empty one gets no blank after the star -/
def commentLine (line : Text) : Text := if line = [] then " *" else " * " ++ line

@[simp] theorem commentLine_nil : commentLine [] = " *" := rfl

def commentBlock (doc : Text) : Text :=
  List.intercalate ['\n'] ((noticeOf doc).lines.map commentLine)

/-- the lines of the generator's documentation, which ends with its licence -/
def toolDocLines : List Text :=
  ["Generate coroutine wrappers for the block subsystem.",
   "",
   "The generator parses one or several concatenated C files, searches for",
   "functions declared with the `generated_co_wrapper` specifier and produces the",
   "corresponding wrappers.",
   "",
   "Usage: `cat FILE.[ch]... | co-wrapper > generated-file.c`",
   "",
   "Copyright (c) 2020 Virtuozzo International GmbH.",
   "",
   "This program is free software; you can redistribute it and/or modify",
   "it under the terms of the GNU General Public License as published by",
   "the Free Software Foundation; either version 2 of the License, or",
   "(at your option) any later version.",
   "",
   "This program is distributed in the hope that it will be useful,",
   "but WITHOUT ANY WARRANTY; without even the implied warranty of",
   "MERCHANTABILITY or FITNESS FOR A PARTICULAR PURPOSE.  See the",
   "GNU General Public License for more details.",
   "",
   "You should have received a copy of the GNU General Public License",
   "along with this program.  If not, see <http://www.gnu.org/licenses/>."]

def toolDoc : Text := toolDocLines.flatMap fun l => l ++ ['\n']

def includeLines : List Text :=
  ["#include \"qemu/osdep.h\"", "#include \"block/coroutines.h\"",
   "#include \"block/block-gen.h\""]

/-- the beginning of a generated file, without a line break at its end -/
def header (generator : Text) : Text :=
  "/*\n * File is generated by " ++ generator ++ "\n *\n" ++ commentBlock toolDoc
    ++ "\n */\n\n" ++ List.intercalate ['\n'] includeLines

end CoroBridge
