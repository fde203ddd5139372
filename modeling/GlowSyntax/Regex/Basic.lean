import GlowSyntax.Regex.CharSet

/-!
Regular expressions in normal form. Sequences and alternatives lean to the right and hold no sequence or
alternative on their left; neighbouring texts are one text, and alternatives between characters are a
set. Normal forms decide in which order equal matches are tried, so expressions are built by `concat`,
`alternation`, `repeated` and `ofSet` only.
-/

namespace GlowSyntax

inductive Look
  | atStart
  | atEnd
  | atEdge
  | notAtEdge
  deriving DecidableEq, Repr

inductive Regex
  | empty
  | text (cs : List Char)
  | set (s : CharSet)
  | look (l : Look)
  | group (r : Regex)
  | seq (r s : Regex)
  | alt (r s : Regex)
  | iter (r : Regex) (least : Nat) (most : Option Nat) (greedy : Bool)
  deriving DecidableEq, Repr

namespace Regex

def mayBeEmpty : Regex → Bool
  | empty | look _ => true
  | text _ | set _ => false
  | group r => r.mayBeEmpty
  | seq r s => r.mayBeEmpty && s.mayBeEmpty
  | alt r s => r.mayBeEmpty || s.mayBeEmpty
  | iter r least _ _ => least == 0 || r.mayBeEmpty

def isBlank : Regex → Bool
  | empty | look _ => true
  | text _ | set _ => false
  | group r => r.isBlank
  | seq r s | alt r s => r.isBlank && s.isBlank
  | iter r _ _ _ => r.isBlank

def hasGroup : Regex → Bool
  | empty | text _ | set _ | look _ => false
  | group _ => true
  | seq r s | alt r s => r.hasGroup || s.hasGroup
  | iter r _ _ _ => r.hasGroup

def parts : Regex → List Regex
  | empty => []
  | seq r s => r :: s.parts
  | r => [r]

def branches : Regex → List Regex
  | alt r s => r :: s.branches
  | r => [r]

def ofParts : List Regex → Regex
  | [] => empty
  | [r] => r
  | r :: rs => seq r (ofParts rs)

def ofBranches : List Regex → Regex
  | [] => set .empty
  | [r] => r
  | r :: rs => alt r (ofBranches rs)

def join : Regex → List Regex → List Regex
  | text a, text b :: rs => text (a ++ b) :: rs
  | r, rs => r :: rs

def concat (rs : List Regex) : Regex := ofParts ((rs.flatMap parts).foldr join [])

def ofSet (s : CharSet) : Regex := s.single?.elim (set s) fun c => text [c]

def char? : Regex → Option Char
  | text [c] => some c
  | _ => none

def set? : Regex → Option CharSet
  | set s => some s
  | _ => none

def parts? : Regex → Option (List Regex)
  | seq r s => some (r :: s.parts)
  | _ => none

def merge (rs : List Regex) : Regex :=
  match rs.mapM char?, rs.mapM set? with
  | some cs, _ => ofSet (.unions (cs.map .single))
  | none, some ss => ofSet (.unions ss)
  | none, none => ofBranches rs

/-- The parts that two sequences begin with. Groups are told apart, so none is shared. -/
def sharedParts : List Regex → List Regex → List Regex
  | r :: rs, s :: ss => if r = s ∧ !r.hasGroup then r :: sharedParts rs ss else []
  | _, _ => []

def alternation (rs : List Regex) : Regex :=
  let bs := rs.flatMap branches
  match bs.mapM parts? with
  | some (ps :: qs :: more) =>
    match (qs :: more).foldl sharedParts ps with
    | [] => ofBranches bs
    | shared =>
      let rests := (ps :: qs :: more).map fun p => concat (p.drop shared.length)
      concat (shared ++ [merge (rests.flatMap branches)])
  | _ => merge bs

def repeated (r : Regex) (least : Nat) (most : Option Nat) (greedy : Bool) : Regex :=
  let (least, most) := if r.isBlank then (min least 1, some (min (most.getD 1) 1)) else (least, most)
  if most = some 0 then empty
  else if least = 1 ∧ most = some 1 then r
  else iter r least most greedy

end Regex

end GlowSyntax
