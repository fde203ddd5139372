import GlowSyntax.Token

namespace GlowSyntax

structure Failure where
  rule : String
  found : Token
  expected : Kind
  /-- The number of tokens matched before. -/
  depth : Nat
  deriving DecidableEq, Repr

structure FailureRecord where
  attempts : List Failure
  deepest : Option Nat
  deriving DecidableEq, Repr

namespace FailureRecord

def empty : FailureRecord := ⟨[], none⟩

def add (r : FailureRecord) (f : Failure) : FailureRecord :=
  match r.deepest with
  | none => ⟨[f], some f.depth⟩
  | some n =>
    if f.depth < n then r
    else if f.depth = n then { r with attempts := r.attempts ++ [f] }
    else ⟨[f], some f.depth⟩

def addAll (r : FailureRecord) (fs : List Failure) : FailureRecord := fs.foldl add r

end FailureRecord

def expectedKinds (fs : List Failure) : List Kind := (fs.map Failure.expected).eraseDups

def failingRules (fs : List Failure) : List String := (fs.map Failure.rule).eraseDups

def disjunction : List String → String
  | [] => ""
  | [d] => d
  | ds => ", ".intercalate ds.dropLast ++ " or " ++ ds.getLastD ""

def expectation (fs : List Failure) : String := disjunction ((expectedKinds fs).map Kind.describe)

def expectedMessage? (fs : List Failure) : Option String :=
  fs.head?.map fun f => "expected " ++ expectation fs ++ ", found " ++ f.found.describe

end GlowSyntax
