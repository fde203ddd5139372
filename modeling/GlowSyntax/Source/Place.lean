namespace GlowSyntax

structure Position where
  line : UInt32
  column : UInt32
  deriving DecidableEq, Repr, Inhabited, Ord

namespace Position

def start : Position := ⟨1, 1⟩

def after (p : Position) (c : Char) : Position :=
  if c = '\n' then ⟨p.line + 1, 1⟩ else ⟨p.line, p.column + 1⟩

def text (p : Position) : String := s!"{p.line}:{p.column}"

end Position

structure Span where
  start : UInt32
  stop : UInt32
  deriving DecidableEq, Repr, Inhabited

namespace Span

def ofOffsets (start stop : Nat) : Span := ⟨start.toUInt32, stop.toUInt32⟩

def dummy : Span := ⟨0, 0⟩

def merge (a b : Span) : Span := ⟨min a.start b.start, max a.stop b.stop⟩

def text (a : Span) : String := s!"{a.start}..{a.stop}"

end Span

end GlowSyntax
