import GlowSyntax.Text.Bytes
import GlowSyntax.Source.Place

namespace GlowSyntax

/-- Each carriage return that stands before a line break is dropped, in one pass from left to right. -/
def normalizeLineEnds : List Char → List Char
  | '\r' :: '\n' :: cs => '\n' :: normalizeLineEnds cs
  | c :: cs => c :: normalizeLineEnds cs
  | [] => []

def linesOf : List Char → List (List Char)
  | [] => [[]]
  | c :: cs =>
    if c = '\n' then [] :: linesOf cs
    else match linesOf cs with
      | [] => [[c]]
      | l :: ls => (c :: l) :: ls

structure SourceFile where
  name : String
  path : Option String
  text : List Char
  deriving DecidableEq, Repr

namespace SourceFile

def ofText (name : String) (contents : String) : SourceFile :=
  ⟨name, none, normalizeLineEnds contents.toList⟩

def contents (f : SourceFile) : String := String.ofList f.text

def lines (f : SourceFile) : List String := (linesOf f.text).map String.ofList

def lineCount (f : SourceFile) : Nat := f.lines.length

def line? (f : SourceFile) : Nat → Option String
  | 0 => none
  | n + 1 => f.lines[n]?

def walk : List Char → Nat → Position → Option Position
  | _, 0, p => some p
  | [], _ + 1, _ => none
  | c :: cs, n + 1, p => if c.utf8Size ≤ n + 1 then walk cs (n + 1 - c.utf8Size) (p.after c) else none

def positionAt (f : SourceFile) (offset : Nat) : Option Position := walk f.text offset .start

end SourceFile

inductive ReadError
  | notFound
  | isDirectory
  | notDirectory
  | denied
  | invalidText
  | other (details : String)
  deriving DecidableEq, Repr

def ReadError.message : ReadError → String
  | .notFound => "No such file or directory (os error 2)"
  | .isDirectory => "Is a directory (os error 21)"
  | .notDirectory => "Not a directory (os error 20)"
  | .denied => "Permission denied (os error 13)"
  | .invalidText => "stream did not contain valid UTF-8"
  | .other details => details

def fileName (path : String) : String :=
  match ((path.splitOn "/").filter fun part => part != "" && part != ".").getLast? with
  | some ".." | none => path
  | some name => name

def SourceFile.ofBytes (path : String) (bytes : ByteArray) : Except ReadError SourceFile :=
  match String.fromUTF8? bytes with
  | some contents => .ok { ofText (fileName path) contents with path := some path }
  | none => .error .invalidText

end GlowSyntax
