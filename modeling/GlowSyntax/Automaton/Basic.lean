import GlowSyntax.Regex.Basic

/-!
Automata for regular expressions. The states have numbers. One that takes a character or looks around
leads to the next number; a fork or a jump says how far away the states are that it leads to. The code of
an expression is a list of states behind whose end a match goes on, so that codes are put together by
putting them in a row.
-/

namespace GlowSyntax

namespace Automaton

inductive State
  | take (s : CharSet)
  | look (l : Look)
  /-- The first way is preferred to the second. -/
  | fork (first second : Int)
  | jump (distance : Int)
  | accept
  deriving DecidableEq, Repr

abbrev Code := List State

namespace Code

open State

def branch (first second : Code) : Code :=
  fork 1 (first.length + 2) :: first ++ jump (second.length + 1) :: second

def choice (greedy : Bool) (more out : Int) : State := if greedy then fork more out else fork out more

def copies (n : Nat) (body : Code) : Code := (List.replicate n body).flatten

def optionalCopies (greedy : Bool) (n : Nat) (body : Code) : Code :=
  (List.range n).flatMap fun k => choice greedy 1 ↑((n - k) * (body.length + 1)) :: body

/-- A body that may be empty is left where it ends, any other where it begins. -/
def repetition (body : Code) (mayBeEmpty greedy : Bool) : Nat → Option Nat → Code
  | least, some most => copies least body ++ optionalCopies greedy (most - least) body
  | least + 1, none => copies (least + 1) body ++ [choice greedy (-body.length) 1]
  | 0, none =>
    choice greedy 1 (body.length + 2) :: body
      ++ [if mayBeEmpty then choice greedy (-body.length) 1 else jump (-(body.length + 1))]

end Code

end Automaton

open Automaton Automaton.State in
def Regex.code : Regex → Code
  | empty => []
  | text cs => cs.map fun c => take (.single c)
  | set s => [take s]
  | look l => [.look l]
  | group r => r.code
  | seq r s => r.code ++ s.code
  | alt r s => .branch r.code s.code
  | iter r least most greedy => r.code.repetition r.mayBeEmpty greedy least most

structure Automaton where
  states : Array Automaton.State
  deriving DecidableEq, Repr

def Automaton.ofRegex (r : Regex) : Automaton := ⟨(r.code ++ [State.accept]).toArray⟩

end GlowSyntax
