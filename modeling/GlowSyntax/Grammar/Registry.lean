import GlowSyntax.Grammar.Glow

namespace GlowSyntax

structure Registry where
  rules : List Rule
  index : List (String × Nat)
  indexed : ∀ name i, index.lookup name = some i ↔ (rules.map Rule.name)[i]? = some name

namespace Registry

theorem names_set {rules : List Rule} {r : Rule} {i : Nat} (h : (rules.map Rule.name)[i]? = some r.name) :
    (rules.set i r).map Rule.name = rules.map Rule.name := by
  obtain ⟨hi, heq⟩ := List.getElem?_eq_some_iff.mp h
  rw [List.map_set, ← heq, List.set_getElem_self]

theorem getElem?_concat {names : List String} {n name : String} {i : Nat} :
    (names ++ [n])[i]? = some name ↔ names[i]? = some name ∨ i = names.length ∧ n = name := by
  rcases Nat.lt_trichotomy i names.length with hi | rfl | hi
  · simp [List.getElem?_append_left hi, Nat.ne_of_lt hi]
  · simp
  · have hlength : (names ++ [n]).length ≤ i := by rwa [List.length_append]
    simp [List.getElem?_eq_none hlength, List.getElem?_eq_none (Nat.le_of_lt hi), Nat.ne_of_gt hi]

theorem indexed_concat {names : List String} {index : List (String × Nat)} {n : String}
    (h : ∀ name i, index.lookup name = some i ↔ names[i]? = some name) (hn : index.lookup n = none)
    (name : String) (i : Nat) :
    ((n, names.length) :: index).lookup name = some i ↔ (names ++ [n])[i]? = some name := by
  rw [getElem?_concat, ← h]
  by_cases hname : name = n
  · subst hname
    simp [hn, eq_comm]
  · have hne : (name == n) = false := by simpa using hname
    simp [List.lookup_cons, hne, Ne.symm hname]

def empty : Registry := ⟨[], [], by simp⟩

def define (g : Registry) (r : Rule) : Registry :=
  match h : g.index.lookup r.name with
  | some i => ⟨g.rules.set i r, g.index, names_set ((g.indexed r.name i).mp h) ▸ g.indexed⟩
  | none => ⟨g.rules ++ [r], (r.name, g.rules.length) :: g.index, by
    have hconcat := indexed_concat g.indexed h
    rwa [List.length_map, ← List.map_singleton, ← List.map_append] at hconcat⟩

def ofRules (rs : List Rule) : Registry := rs.foldl define empty

def glow : Registry := ofRules Grammar.glow.rules

def find? (g : Registry) (name : String) : Option Rule := (g.index.lookup name).bind (g.rules[·]?)

def rule (g : Registry) (name : String) : Except GrammarError Rule :=
  match g.find? name with
  | some r => .ok r
  | none => .error (.unknownRule name)

def contains (g : Registry) (name : String) : Bool := (g.index.lookup name).isSome

def dangling? (g : Registry) : Option (String × String) :=
  g.rules.findSome? fun r => (r.references.find? fun t => !g.contains t).map (r.name, ·)

def isClosed (g : Registry) : Bool := g.dangling?.isNone

theorem distinct (g : Registry) : (g.rules.map Rule.name).Nodup := by
  refine List.pairwise_iff_getElem.mpr fun i j hi hj hij heq => ?_
  have hfirst := (g.indexed _ i).mpr (List.getElem?_eq_getElem hi)
  have hsecond := (g.indexed _ j).mpr (List.getElem?_eq_getElem hj)
  rw [heq, hsecond] at hfirst
  exact Nat.ne_of_gt hij (Option.some.inj hfirst)

def grammar (g : Registry) : Grammar := ⟨g.rules, g.distinct⟩

end Registry

end GlowSyntax
