import GlowSyntax.Token

namespace GlowSyntax

inductive Symbol
  | token (k : Kind)
  | rule (name : String)
  deriving DecidableEq, Repr

structure Item where
  symbol : Symbol
  label : Option String
  deriving DecidableEq, Repr

namespace Item

def token (k : Kind) : Item := ⟨.token k, none⟩

def rule (name : String) : Item := ⟨.rule name, none⟩

def labelled (i : Item) (l : String) : Item := { i with label := some l }

def tokenAs (k : Kind) (label : String) : Item := ⟨.token k, some label⟩

def ruleAs (name label : String) : Item := ⟨.rule name, some label⟩

def reference? (i : Item) : Option String :=
  match i.symbol with
  | .token _ => none
  | .rule n => some n

def text (i : Item) : String :=
  let tag := i.label.elim "" (":" ++ ·)
  match i.symbol with
  | .token k => k.name ++ tag
  | .rule n => "[" ++ n ++ tag ++ "]"

end Item

abbrev Alternative := List Item

namespace Alternative

def text : Alternative → String
  | [] => "()"
  | a => " ".intercalate (a.map Item.text)

def references (a : Alternative) : List String := a.filterMap Item.reference?

end Alternative

structure Rule where
  name : String
  alternatives : List Alternative
  deriving DecidableEq, Repr

namespace Rule

def references (r : Rule) : List String := r.alternatives.flatMap Alternative.references

def text (r : Rule) : String :=
  if r.alternatives.isEmpty then r.name ++ ":"
  else r.name ++ ": " ++ " | ".intercalate (r.alternatives.map Alternative.text)

end Rule

inductive GrammarError
  | unknownRule (name : String)
  | dangling (rule target : String)
  | leftRecursion (cycle : List String)
  deriving DecidableEq, Repr

def GrammarError.message : GrammarError → String
  | unknownRule n => "grammar rule `" ++ n ++ "` does not exist"
  | dangling r t => "rule `" ++ r ++ "` references undefined rule `" ++ t ++ "`"
  | leftRecursion c => "left-recursive rules: " ++ " -> ".intercalate c

structure Grammar where
  rules : List Rule
  distinct : (rules.map Rule.name).Nodup

namespace Grammar

def empty : Grammar := ⟨[], .nil⟩

def names (g : Grammar) : List String := g.rules.map Rule.name

def contains (g : Grammar) (name : String) : Bool := g.names.contains name

def find? (g : Grammar) (name : String) : Option Rule := g.rules.find? (·.name == name)

def rule (g : Grammar) (name : String) : Except GrammarError Rule :=
  match g.find? name with
  | some r => .ok r
  | none => .error (.unknownRule name)

def replace (r : Rule) (rs : List Rule) : List Rule := rs.map fun s => if s.name = r.name then r else s

theorem names_replace (r : Rule) (rs : List Rule) : (replace r rs).map Rule.name = rs.map Rule.name := by
  simp only [replace, List.map_map]
  refine List.map_congr_left fun s _ => ?_
  simp only [Function.comp]
  split
  · next h => exact h.symm
  · rfl

def define (g : Grammar) (r : Rule) : Grammar :=
  if h : r.name ∈ g.names then ⟨replace r g.rules, names_replace r g.rules ▸ g.distinct⟩
  else ⟨g.rules ++ [r], by
    rw [List.map_append, List.nodup_append]
    refine ⟨g.distinct, by simp, ?_⟩
    rintro a ha b hb rfl
    simp only [List.map_cons, List.map_nil, List.mem_singleton] at hb
    exact h (hb ▸ ha)⟩

def ofRules (rs : List Rule) : Grammar := rs.foldl define empty

def size (g : Grammar) : Nat := g.rules.length

def dangling? (g : Grammar) : Option (String × String) :=
  g.rules.findSome? fun r => (r.references.find? fun t => !g.contains t).map (r.name, ·)

def isClosed (g : Grammar) : Bool := g.dangling?.isNone

end Grammar

end GlowSyntax
