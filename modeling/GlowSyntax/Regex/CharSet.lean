import GlowSyntax.Unicode.Classes
import GlowSyntax.Unicode.Folding

namespace GlowSyntax

structure CharSet where
  ranges : Unicode.Table
  deriving DecidableEq, Repr

namespace CharSet

def contains (s : CharSet) (c : Char) : Bool := s.ranges.contains c

def empty : CharSet := ⟨[]⟩

def range (first last : Char) : CharSet := ⟨[(first.toNat, last.toNat)]⟩

def single (c : Char) : CharSet := range c c

def single? (s : CharSet) : Option Char :=
  match s.ranges with
  | [(a, b)] => if a = b then some (Char.ofNat a) else none
  | _ => none

def compl (s : CharSet) : CharSet := ⟨s.ranges.gaps 0⟩

def union (s t : CharSet) : CharSet := ⟨s.ranges.union t.ranges⟩

def inter (s t : CharSet) : CharSet := (s.compl.union t.compl).compl

def unions (ss : List CharSet) : CharSet := ss.foldl union empty

def ofCodePoints (ns : List Nat) : CharSet := ⟨ns.foldl (fun t n => t.insert n n) []⟩

def folded (s : CharSet) : CharSet :=
  let pairs := Unicode.foldPairs
  let t := s.union (ofCodePoints ((pairs.filter fun p => s.contains (Char.ofNat p.1)).map (·.2)))
  t.union (ofCodePoints ((pairs.filter fun p => t.contains (Char.ofNat p.2)).map (·.1)))

def full : CharSet := compl empty

def noLineBreak : CharSet := compl (single '\n')

def decimal : CharSet := ⟨(range '0' '9').ranges ++ Unicode.decimalTable⟩

def space : CharSet := ⟨Unicode.spaceTable⟩

def asciiWord : CharSet := unions [range '0' '9', range 'A' 'Z', single '_', range 'a' 'z']

def word : CharSet := ⟨asciiWord.ranges ++ Unicode.wordTable⟩

def named? : String → Option CharSet
  | "alnum" => some (unions [range '0' '9', range 'A' 'Z', range 'a' 'z'])
  | "alpha" => some (unions [range 'A' 'Z', range 'a' 'z'])
  | "ascii" => some (range '\x00' '\x7f')
  | "blank" => some (unions [single '\t', single ' '])
  | "cntrl" => some (unions [range '\x00' '\x1f', single '\x7f'])
  | "digit" => some (range '0' '9')
  | "graph" => some (range '!' '~')
  | "lower" => some (range 'a' 'z')
  | "print" => some (range ' ' '~')
  | "punct" => some (unions [range '!' '/', range ':' '@', range '[' '\x60', range '\x7b' '~'])
  | "space" => some (unions [range '\t' '\r', single ' '])
  | "upper" => some (range 'A' 'Z')
  | "word" => some asciiWord
  | "xdigit" => some (unions [range '0' '9', range 'A' 'F', range 'a' 'f'])
  | _ => none

end CharSet

end GlowSyntax
