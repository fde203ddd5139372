import GlowSyntax.Regex.Basic

namespace GlowSyntax.Regex

structure Flags where
  ignoreCase : Bool
  dotAll : Bool
  deriving DecidableEq

namespace Flags

def none : Flags := ⟨false, false⟩

def apply (f : Flags) (s : CharSet) : CharSet := if f.ignoreCase then s.folded else s

def switch? (f : Flags) (c : Char) (value : Bool) : Option Flags :=
  match c with
  | 'i' => some { f with ignoreCase := value }
  | 's' => some { f with dotAll := value }
  | _ => Option.none

end Flags

inductive Atom
  | char (c : Char)
  | set (s : CharSet)
  | look (l : Look)

def Atom.regex (f : Flags) : Atom → Regex
  | char c => ofSet (f.apply (.single c))
  | set s => ofSet s
  | look l => .look l

namespace Reader

def isMeta (c : Char) : Bool := "\\.+*?()|[]\x7b\x7d^$#&-~".toList.contains c

def hexValue? (cs : List Char) : Option Nat :=
  if cs.isEmpty then none
  else cs.foldlM (fun n c =>
    if c.isDigit then some (16 * n + (c.toNat - '0'.toNat))
    else if 'a' ≤ c ∧ c ≤ 'f' then some (16 * n + 10 + (c.toNat - 'a'.toNat))
    else if 'A' ≤ c ∧ c ≤ 'F' then some (16 * n + 10 + (c.toNat - 'A'.toNat))
    else none) 0

def scalar? (n : Nat) : Option Char := if n.isValidChar then some (Char.ofNat n) else none

def codePoint? (width : Nat) : List Char → Option (Char × List Char)
  | '\x7b' :: cs => do
    let (ds, cs) := cs.span (· != '\x7d')
    let c ← scalar? (← hexValue? ds)
    if cs.isEmpty then none else some (c, cs.drop 1)
  | cs => do
    if cs.length < width then none
    else some (← scalar? (← hexValue? (cs.take width)), cs.drop width)

def escape? : List Char → Option (Atom × List Char)
  | [] => none
  | c :: cs =>
    if isMeta c then some (.char c, cs) else
    match c with
    | 'd' => some (.set .decimal, cs)
    | 'D' => some (.set (.compl .decimal), cs)
    | 's' => some (.set .space, cs)
    | 'S' => some (.set (.compl .space), cs)
    | 'w' => some (.set .word, cs)
    | 'W' => some (.set (.compl .word), cs)
    | 'a' => some (.char '\x07', cs)
    | 'f' => some (.char '\x0c', cs)
    | 'n' => some (.char '\n', cs)
    | 'r' => some (.char '\r', cs)
    | 't' => some (.char '\t', cs)
    | 'v' => some (.char '\x0b', cs)
    | 'A' => some (.look .atStart, cs)
    | 'z' => some (.look .atEnd, cs)
    | 'b' => some (.look .atEdge, cs)
    | 'B' => some (.look .notAtEdge, cs)
    | 'x' => (codePoint? 2 cs).map fun r => (.char r.1, r.2)
    | 'u' => (codePoint? 4 cs).map fun r => (.char r.1, r.2)
    | 'U' => (codePoint? 8 cs).map fun r => (.char r.1, r.2)
    | c => if c.toNat < 128 && !c.isAlphanum && c != '<' && c != '>' then some (.char c, cs) else none

end Reader

end GlowSyntax.Regex
