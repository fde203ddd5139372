import GlowSyntax.Automaton.Basic

/-!
Runs of automata: the states in which a run waits are followed all at once over the text, in order of
preference. Of the matches that begin at the start the first in this order counts: earlier branches before
later ones, longer repetitions before shorter ones, or the reverse where a repetition is lazy. At each
place a state counts once, on the way to it that is preferred. So a run takes time linear in the text, and
a repetition ends where it would go on without reading.
-/

namespace GlowSyntax

structure Place where
  before : Option Char
  after : Option Char

def Look.holds (p : Place) : Look → Bool
  | atStart => p.before.isNone
  | atEnd => p.after.isNone
  | atEdge => p.before.any Unicode.isWord != p.after.any Unicode.isWord
  | notAtEdge => p.before.any Unicode.isWord == p.after.any Unicode.isWord

namespace Automaton

open State

def target (i : Nat) (distance : Int) : Nat := (i + distance).toNat

/-- Visits the states of a list and those that follow, and finds the ones that wait for something. The
bits of `seen` stand for the states that have been visited. -/
def visit (a : Automaton) (holds : Look → Bool) : Nat → List Nat → Nat → List Nat → List Nat
  | 0, _, _, found | _, [], _, found => found.reverse
  | n + 1, i :: todo, seen, found =>
    if seen.testBit i then visit a holds n todo seen found
    else
      let seen := seen ||| 1 <<< i
      match a.states[i]? with
      | some (fork x y) => visit a holds n (target i x :: target i y :: todo) seen found
      | some (jump x) => visit a holds n (target i x :: todo) seen found
      | some (look l) => visit a holds n (if holds l then (i + 1) :: todo else todo) seen (i :: found)
      | _ => visit a holds n todo seen (i :: found)

def closure (a : Automaton) (holds : Look → Bool) (is : List Nat) : List Nat :=
  a.visit holds (is.length + 2 * a.states.size + 1) is 0 []

def opens (a : Automaton) (p : Place) (i : Nat) : Bool :=
  match a.states[i]? with
  | some (look l) => l != .atStart && l.holds p
  | _ => false

/-- The states in which a run waits at a place. In a staged run the looks that depend on the next
character are passed in a second round, which begins with what the first one found. -/
def settle (a : Automaton) (staged : Bool) (p : Place) (is : List Nat) : List Nat :=
  if staged then
    let found := a.closure (fun l => l == .atStart && l.holds p) is
    if found.any (a.opens p) then a.closure (·.holds p) found else found
  else a.closure (·.holds p) is

def accepts (a : Automaton) (is : List Nat) : Bool := is.any fun i => a.states[i]? == some accept

def advance (a : Automaton) (c : Char) : List Nat → List Nat
  | [] => []
  | i :: is =>
    match a.states[i]? with
    | some accept => []
    | some (take s) => if s.contains c then (i + 1) :: advance a c is else advance a c is
    | _ => advance a c is

structure Run where
  before : Option Char
  length : Nat
  best : Option Nat
  states : List Nat

namespace Run

def start : Run := ⟨none, 0, none, [0]⟩

def isOver (r : Run) : Bool := r.states.isEmpty && r.best.all (· + 1 < r.length)

def noting (r : Run) (accepted : Bool) : Run := if accepted then { r with best := some r.length } else r

end Run

def finish (a : Automaton) (staged : Bool) (r : Run) : Run :=
  r.noting (a.accepts (a.settle staged ⟨r.before, none⟩ r.states))

def step (a : Automaton) (staged : Bool) (r : Run) (c : Char) : Run :=
  let waiting := a.settle staged ⟨r.before, some c⟩ r.states
  let r := r.noting (a.accepts waiting)
  { r with before := some c, length := r.length + 1, states := a.advance c waiting }

def hasEdge (a : Automaton) : Bool :=
  a.states.any fun s => s == look .atEdge || s == look .notAtEdge

/-- A run to the end of the text, or until it is over. A staged run that would have to see word edges
beyond ASCII gives up. -/
def run? (a : Automaton) (staged : Bool) : Run → List Char → Option Run
  | r, [] => some (a.finish staged r)
  | r, c :: cs =>
    if r.isOver then some r
    else if staged && 127 < c.toNat && a.hasEdge then none
    else run? a staged (a.step staged r c) cs

def prefixOf? (a : Automaton) (text : List Char) : Option (List Char) :=
  ((a.run? true .start text <|> a.run? false .start text).bind (·.best)).map text.take

end Automaton

end GlowSyntax
