import GlowSyntax.Regex.Basic
import GlowSyntax.Unicode.Table

/-!
The size of a regular expression: how many bytes its automaton would take as a table of transitions over
the bytes of UTF-8, forward or backward. Repetitions count with all their copies, so the size of an
expression may be far beyond its length.
-/

namespace GlowSyntax

namespace Regex

def stateBytes : Nat := 32

def transitionBytes : Nat := 8

def branchBytes : Nat := 4

def choiceBytes : Nat := stateBytes + 2 * branchBytes

/-- Forward, places with the same ways to the end are one state; backward, equal beginnings are. -/
def setSize (backward : Bool) (s : CharSet) : Nat :=
  if s.ranges.all (·.2 < 128) then 2 * stateBytes + s.ranges.length * transitionBytes
  else
    let ss := Unicode.sequences s.ranges
    if backward then
      let beginnings := (ss.flatMap fun s => (List.range s.length).map fun k => s.take (k + 1)).eraseDups
      2 * stateBytes + ss.length * branchBytes + beginnings.length * stateBytes
    else
      let places := (Unicode.places 4 ss).eraseDups
      places.foldl (fun n p => n + stateBytes + (Unicode.following p).length * transitionBytes) stateBytes

def repetitionSize (body : Nat) (mayBeEmpty : Bool) : Nat → Option Nat → Nat
  | 0, some 1 => stateBytes + choiceBytes + body
  | 0, none => body + if mayBeEmpty then stateBytes + 2 * choiceBytes else choiceBytes
  | least, none => least * body + choiceBytes
  | least, some most =>
    if least = most then least * body
    else (if least = 0 then stateBytes else least * body) + stateBytes + (most - least) * (choiceBytes + body)

def size (backward : Bool) : Regex → Nat
  | empty | look _ => stateBytes
  | text cs => (cs.map Char.utf8Size).sum * stateBytes
  | set s => setSize backward s
  | group r => r.size backward + if backward then 0 else 2 * stateBytes
  | seq r s => r.size backward + s.size backward
  | alt r s =>
    r.size backward + branchBytes + s.size backward
      + if s.branches.length = 1 then 2 * stateBytes + branchBytes else 0
  | iter r least most _ => repetitionSize (r.size backward) r.mayBeEmpty least most

def sizeLimit : Nat := 10 * 1024 * 1024

def isSmall (r : Regex) : Bool :=
  r.size false + 4 * stateBytes ≤ sizeLimit && r.size true + 2 * stateBytes ≤ sizeLimit

end Regex

end GlowSyntax
