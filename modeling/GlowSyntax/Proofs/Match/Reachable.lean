import GlowSyntax.Match.Probe
import GlowSyntax.Proofs.Grammar.Registry
import Mathlib.Logic.Relation

namespace GlowSyntax

namespace Registry

def RefersTo (g : Registry) (x y : String) : Prop := ∃ r ∈ g.find? x, y ∈ r.references

variable {g g' : Registry} {n x y : String} {names : List String}

lemma find?_congr (h : (g.find? n).map Rule.alternatives = (g'.find? n).map Rule.alternatives) :
    g.find? n = g'.find? n := by
  cases hr : g.find? n with
  | none =>
    rw [hr] at h
    exact (Option.map_eq_none_iff.mp h.symm).symm
  | some r =>
    rw [hr] at h
    obtain ⟨r', hr', halternatives⟩ := Option.map_eq_some_iff.mp h.symm
    have hname : r'.name = r.name := (name_of_find? hr').trans (name_of_find? hr).symm
    have hsame : r' = r := congrArg₂ Rule.mk hname halternatives
    rw [hr', hsame]

lemma mem_of_reaches (hclosed : ∀ x ∈ names, ∀ r ∈ g.find? x, ∀ y ∈ r.references, y ∈ names) (hx : x ∈ names)
    (h : Relation.ReflTransGen g.RefersTo x y) : y ∈ names := by
  induction h with
  | refl => exact hx
  | tail _ hy ih =>
    obtain ⟨r, hr, hy⟩ := hy
    exact hclosed _ ih r hr _ hy

end Registry

section Calls

variable {call call' : NestedProbe} {frame : Frame}

lemma probeItems_congr (rule : String) {items : List Item}
    (h : ∀ n ∈ Alternative.references items, call n = call' n) (depth : Nat) :
    probeItems call rule frame items depth = probeItems call' rule frame items depth := by
  induction items generalizing depth with
  | nil => rfl
  | cons item items ih =>
    obtain ⟨symbol, label⟩ := item
    cases symbol with
    | token k =>
      have hrest := ih h
      simp only [probeItems, hrest]
    | rule name =>
      have hrest := ih fun n hn => h n (List.mem_cons_of_mem name hn)
      simp only [probeItems, h name List.mem_cons_self, hrest]

lemma probeAlternatives_congr (r : Rule) (depth i : Nat) {as : List Alternative}
    (h : ∀ a ∈ as, ∀ n ∈ a.references, call n = call' n) :
    probeAlternatives call r frame depth i as = probeAlternatives call' r frame depth i as := by
  induction as generalizing i with
  | nil => rfl
  | cons a as ih =>
    obtain ⟨ha, has⟩ := List.forall_mem_cons.mp h
    simp only [probeAlternatives, probeAlternative, probeItems_congr r.name ha, ih (i + 1) has]

end Calls

-- By induction on `n`: the rules nested in one whose name is among those agreed on have such names too.
lemma probeNested_congr {g g' : Grammar} {P : String → Prop} (hfind : ∀ n, P n → g.find? n = g'.find? n)
    (hclosed : ∀ n r, P n → g.find? n = some r → ∀ t ∈ r.references, P t) (limit n : Nat) {name : String}
    (hname : P name) : probeNested g limit n name = probeNested g' limit n name := by
  induction n generalizing name with
  | zero => rfl
  | succ n ih =>
    funext depth parent
    have hsame := hfind name hname
    cases hr : g.find? name with
    | none => simp only [probeNested, hr, ← hsame]
    | some r =>
      have hcalls : ∀ a ∈ r.alternatives, ∀ t ∈ a.references,
          probeNested g limit n t = probeNested g' limit n t :=
        fun a ha t ht => ih (hclosed name r hname hr t (List.mem_flatMap.mpr ⟨a, ha, ht⟩))
      simp only [probeNested, hr, ← hsame, probeAlternatives_congr r _ _ hcalls]

/-- With the same alternatives for every name that a rule leads to, and none for the same names, an attempt of the rule
makes the same run with the same result, adds the same failures to any record and leaves the cursor alike. -/
theorem attempt_of_reachable {g g' : Registry} {name : String}
    (h : ∀ n, Relation.ReflTransGen g.RefersTo name n →
      (g.find? n).map Rule.alternatives = (g'.find? n).map Rule.alternatives)
    (c : Cursor) (limit depth : Nat) :
    c.attemptRule g.grammar limit name depth = c.attemptRule g'.grammar limit name depth ∧
    ∀ record : FailureRecord, (c.attemptRule g.grammar limit name depth).1.record record =
      (c.attemptRule g'.grammar limit name depth).1.record record := by
  have hfind : ∀ n, Relation.ReflTransGen g.RefersTo name n → g.grammar.find? n = g'.grammar.find? n := by
    intro n hn
    rw [Registry.find?_grammar, Registry.find?_grammar]
    exact Registry.find?_congr (h n hn)
  have hclosed : ∀ n r, Relation.ReflTransGen g.RefersTo name n → g.grammar.find? n = some r →
      ∀ t ∈ r.references, Relation.ReflTransGen g.RefersTo name t := by
    intro n r hn hr t ht
    rw [Registry.find?_grammar] at hr
    exact hn.tail ⟨r, hr, ht⟩
  have hsame : c.attemptRule g.grammar limit name depth = c.attemptRule g'.grammar limit name depth := by
    rw [Cursor.attemptRule, Cursor.attemptRule, probeNested_congr hfind hclosed _ _ .refl]
  exact ⟨hsame, fun record => by rw [hsame]⟩

def shuffledRules : Registry :=
  .ofRules ([⟨"factor", [[.rule "lost"]]⟩, ⟨"program", [[.token .plus]]⟩] ++ Grammar.glow.rules.reverse ++
    [⟨"program", [[.rule "lost"]]⟩, ⟨"extra", [[.rule "expr"]]⟩])

def productCursor : Cursor := .start (.glow (.ofText "product" "a * (b + 1"))

theorem attempt_of_reachable_shuffled :
    (∀ n, Relation.ReflTransGen Registry.glow.RefersTo "expr" n →
      (Registry.glow.find? n).map Rule.alternatives = (shuffledRules.find? n).map Rule.alternatives) ∧
    shuffledRules.isClosed = false ∧
    productCursor.attemptRule Registry.glow.grammar 256 "expr" 0 =
      productCursor.attemptRule shuffledRules.grammar 256 "expr" 0 ∧
    ((productCursor.attemptRule shuffledRules.grammar 256 "expr" 0).1.record .empty).deepest = some 6 := by
  have hnames : ∀ n, Relation.ReflTransGen Registry.glow.RefersTo "expr" n →
      n ∈ ["expr", "expr_tail", "factor", "paren", "atomic", "string", "chars"] := by
    intro n
    apply Registry.mem_of_reaches
    · decide +kernel
    · decide
  have hsame : ∀ n ∈ ["expr", "expr_tail", "factor", "paren", "atomic", "string", "chars"],
      (Registry.glow.find? n).map Rule.alternatives = (shuffledRules.find? n).map Rule.alternatives := by
    decide +kernel
  obtain ⟨heq, hrecord⟩ := attempt_of_reachable (fun n hn => hsame n (hnames n hn)) productCursor 256 0
  refine ⟨fun n hn => hsame n (hnames n hn), by decide +kernel, heq, ?_⟩
  rw [← hrecord]
  decide +kernel

end GlowSyntax
