import GlowSyntax.Source.File

namespace GlowSyntax

def breakEnds : Nat → List Char → List Nat
  | _, [] => []
  | n, c :: cs =>
    if c = '\n' then (n + c.utf8Size) :: breakEnds (n + c.utf8Size) cs
    else breakEnds (n + c.utf8Size) cs

def binarySearch (table : List Nat) (n : Nat) : Except Nat Nat :=
  match table.idxOf? n with
  | some i => .ok i
  | none => .error (table.countP (· < n))

namespace SourceFile

def lineStarts (f : SourceFile) : List Nat := 0 :: breakEnds 0 f.text

def slice? (f : SourceFile) (start stop : Nat) : Option (List Char) :=
  if start ≤ stop then do
    let rest ← Text.dropBytes f.text start
    let after ← Text.dropBytes f.text stop
    some (rest.take (rest.length - after.length))
  else none

def lineIndex (f : SourceFile) (offset : Nat) : Nat :=
  match binarySearch f.lineStarts offset with
  | .ok i => i
  | .error i => i - 1

def tabulatedLine? (f : SourceFile) : Nat → Option String
  | 0 => none
  | n + 1 => do
    let start ← f.lineStarts[n]?
    let stop := f.lineStarts[n + 1]?.elim (Text.size f.text) (· - 1)
    (f.slice? start stop).map String.ofList

def tabulatedPosition? (f : SourceFile) (offset : Nat) : Option Position :=
  if (Text.dropBytes f.text offset).isSome then do
    let start ← f.lineStarts[f.lineIndex offset]?
    let before ← f.slice? start offset
    some ⟨(f.lineIndex offset).toUInt32 + 1, (before.length + 1).toUInt32⟩
  else none

end SourceFile

end GlowSyntax
