import GlowSyntax.Grammar.Basic

namespace GlowSyntax

namespace Alternative

def isNullable (nullable : List String) (a : Alternative) : Bool :=
  a.all fun i => i.reference?.any nullable.contains

def leading (nullable : List String) : Alternative → List String
  | [] => []
  | i :: is =>
    match i.symbol with
    | .token _ => []
    | .rule n => n :: if nullable.contains n then leading nullable is else []

end Alternative

namespace Grammar

/-- The rules that match the empty sequence by derivations of height at most `n`. -/
def nullableWithin (g : Grammar) : Nat → List String
  | 0 => []
  | n + 1 =>
    let below := nullableWithin g n
    (g.rules.filter fun r => r.alternatives.any (Alternative.isNullable below)).map Rule.name

def nullable (g : Grammar) : List String := g.nullableWithin g.size

def leads (g : Grammar) (name : String) : List String :=
  match g.find? name with
  | some r => r.alternatives.flatMap (Alternative.leading g.nullable)
  | none => []

/-- Follows the edges from a node by depth. The error is the first cycle found; otherwise the nodes
from which no cycle is reached are added to `clear`. At most `n` nodes are nested below `path`. -/
def explore (edges : String → List String) :
    Nat → List String → List String → String → Except (List String) (List String)
  | 0, _, clear, _ => .ok clear
  | n + 1, path, clear, node =>
    if clear.contains node then .ok clear
    else if path.contains node then .error (path.dropWhile (· != node) ++ [node])
    else match (edges node).foldlM (fun clear next => explore edges n (path ++ [node]) clear next) clear with
      | .ok clear => .ok (node :: clear)
      | .error cycle => .error cycle

def leftRecursion? (g : Grammar) : Option (List String) :=
  match g.names.foldlM (fun clear name => explore g.leads (g.size + 2) [] clear name) [] with
  | .ok _ => none
  | .error cycle => some cycle

def validate (g : Grammar) : Except GrammarError Unit :=
  match g.dangling? with
  | some (r, t) => .error (.dangling r t)
  | none =>
    match g.leftRecursion? with
    | some cycle => .error (.leftRecursion cycle)
    | none => .ok ()

end Grammar

end GlowSyntax
