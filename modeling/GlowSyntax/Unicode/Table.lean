/-!
Sets of characters given as tables of code point ranges, both ends included. The rows of a table ascend
and do not touch each other.
-/

namespace GlowSyntax.Unicode

abbrev Table := List (Nat × Nat)

namespace Table

def contains (t : Table) (c : Char) : Bool :=
  t.any fun r => r.1 ≤ c.toNat && c.toNat ≤ r.2

def insert (lo hi : Nat) : Table → Table
  | [] => [(lo, hi)]
  | (a, b) :: t =>
    if hi + 1 < a then (lo, hi) :: (a, b) :: t
    else if b + 1 < lo then (a, b) :: insert lo hi t
    else insert (min lo a) (max hi b) t

def union (s t : Table) : Table := t.foldl (fun u r => insert r.1 r.2 u) s

def lastCodePoint : Nat := 0x10FFFF

def gaps (lo : Nat) : Table → Table
  | [] => if lo ≤ lastCodePoint then [(lo, lastCodePoint)] else []
  | (a, b) :: t => if lo < a then (lo, a - 1) :: gaps (b + 1) t else gaps (b + 1) t

end Table

abbrev ByteSequence := List (Nat × Nat)

def units : Nat → Nat → Nat → List ByteSequence
  | 0, lo, hi => [[(lo, hi)]]
  | k + 1, lo, hi =>
    let m := 64 ^ (k + 1)
    let a := lo / m
    let b := hi / m
    if a = b then (units k (lo % m) (hi % m)).map ((a, a) :: ·)
    else
      let first := if lo % m = 0 then [] else (units k (lo % m) (m - 1)).map ((a, a) :: ·)
      let last := if hi % m = m - 1 then [] else (units k 0 (hi % m)).map ((b, b) :: ·)
      let lo' := if lo % m = 0 then a else a + 1
      let hi' := if hi % m = m - 1 then b else b - 1
      first ++ (if lo' ≤ hi' then [(lo', hi') :: List.replicate (k + 1) (0, 63)] else []) ++ last

/-- Code points that are encoded alike: the first and the last, the number of bytes behind the first
byte, and what is added in the first byte. -/
structure EncodingBlock where
  first : Nat
  last : Nat
  more : Nat
  lead : Nat

def encodingBlocks : List EncodingBlock :=
  [⟨0, 0x7F, 0, 0⟩, ⟨0x80, 0x7FF, 1, 0xC0⟩, ⟨0x800, 0xD7FF, 2, 0xE0⟩, ⟨0xE000, 0xFFFF, 2, 0xE0⟩,
    ⟨0x10000, 0x10FFFF, 3, 0xF0⟩]

def EncodingBlock.sequences (b : EncodingBlock) (lo hi : Nat) : List ByteSequence :=
  let lo := max lo b.first
  let hi := min hi b.last
  if hi < lo then []
  else (units b.more lo hi).map fun s => s.modifyHead fun r => (b.lead + r.1, b.lead + r.2)

def sequences (t : Table) : List ByteSequence :=
  t.flatMap fun r => encodingBlocks.flatMap (·.sequences r.1 r.2)

def following (ss : List ByteSequence) : List (List ByteSequence) :=
  (ss.splitBy fun a b => a.head? == b.head?).map (·.map List.tail)

def places : Nat → List ByteSequence → List (List ByteSequence)
  | 0, _ => []
  | n + 1, ss => if ss = [[]] then [] else ss :: (following ss).flatMap (places n)

end GlowSyntax.Unicode
