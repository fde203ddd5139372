import GlowSyntax.Grammar.Registry
import GlowSyntax.Proofs.Firsts
import GlowSyntax.Proofs.Grammar.Derivation

namespace GlowSyntax

def LastDefinition (ds : List Rule) (r : Rule) : Prop :=
  ∃ before after, ds = before ++ r :: after ∧ ∀ s ∈ after, s.name ≠ r.name

lemma lastDefinition_concat {ds : List Rule} {d r : Rule} :
    LastDefinition (ds ++ [d]) r ↔ r = d ∨ LastDefinition ds r ∧ r.name ≠ d.name := by
  constructor
  · rintro ⟨before, after, heq, hafter⟩
    obtain rfl | ⟨after, s, rfl⟩ := List.eq_nil_or_concat' after
    · exact Or.inl (List.append_singleton_inj.mp heq).2.symm
    · rw [← List.cons_append, ← List.append_assoc] at heq
      obtain ⟨rfl, rfl⟩ := List.append_singleton_inj.mp heq
      refine Or.inr ⟨⟨before, after, rfl, fun s hs => hafter s (List.mem_append_left _ hs)⟩, ?_⟩
      exact (hafter d (by simp)).symm
  · rintro (rfl | ⟨⟨before, after, rfl, hafter⟩, hne⟩)
    · exact ⟨ds, [], rfl, by simp⟩
    · refine ⟨before, after ++ [d], by simp, ?_⟩
      simpa [or_imp, forall_and] using ⟨hafter, hne.symm⟩

namespace Grammar

variable {g g' : Grammar} {r s : Rule}

lemma ext (h : g.rules = g'.rules) : g = g' := by
  cases g
  cases g'
  cases h
  rfl

lemma names_define_of_mem (h : r.name ∈ g.names) : (g.define r).names = g.names := by
  rw [define, dif_pos h]
  exact names_replace r g.rules

lemma names_define_of_not_mem (h : r.name ∉ g.names) : (g.define r).names = g.names ++ [r.name] := by
  rw [define, dif_neg h, names, List.map_append, List.map_singleton, names]

lemma mem_rules_define : s ∈ (g.define r).rules ↔ s = r ∨ s ∈ g.rules ∧ s.name ≠ r.name := by
  rw [define]
  split
  · next h =>
    obtain ⟨t, ht, hname⟩ := List.mem_map.mp h
    simp only [replace, List.mem_map]
    constructor
    · rintro ⟨u, hu, rfl⟩
      split
      · exact Or.inl rfl
      · next hne => exact Or.inr ⟨hu, hne⟩
    · rintro (rfl | ⟨hs, hne⟩)
      · exact ⟨t, ht, if_pos hname⟩
      · exact ⟨s, hs, if_neg hne⟩
  · next h =>
    have hnew : s ∈ g.rules → s.name ≠ r.name := fun hs heq => h (heq ▸ List.mem_map_of_mem hs)
    simp only [List.mem_append, List.mem_singleton]
    constructor
    · rintro (hs | rfl)
      · exact Or.inr ⟨hs, hnew hs⟩
      · exact Or.inl rfl
    · rintro (rfl | ⟨hs, -⟩)
      · exact Or.inr rfl
      · exact Or.inl hs

lemma ofRules_concat (ds : List Rule) (d : Rule) : ofRules (ds ++ [d]) = (ofRules ds).define d :=
  List.foldl_concat ..

lemma firstsOf_names (ds : List Rule) : FirstsOf (ofRules ds).names (ds.map Rule.name) := by
  induction ds using List.reverseRecOn with
  | nil => exact .nil
  | append_singleton ds d ih =>
    rw [ofRules_concat, List.map_append, List.map_singleton]
    by_cases h : d.name ∈ (ofRules ds).names
    · rw [names_define_of_mem h]
      exact ih.concat_of_mem ((ih.mem_iff _).mp h)
    · rw [names_define_of_not_mem h]
      exact ih.concat_of_not_mem (mt (ih.mem_iff _).mpr h)

lemma mem_rules_ofRules {ds : List Rule} {r : Rule} : r ∈ (ofRules ds).rules ↔ LastDefinition ds r := by
  induction ds using List.reverseRecOn with
  | nil => simp [ofRules, empty, LastDefinition]
  | append_singleton ds d ih => rw [ofRules_concat, mem_rules_define, lastDefinition_concat, ih]

lemma isClosed_iff : g.isClosed = true ↔ ∀ r ∈ g.rules, ∀ t ∈ r.references, t ∈ g.names := by
  simp [isClosed, dangling?, contains]

end Grammar

namespace Registry

variable {g : Registry} {r : Rule} {name : String} {i : Nat}

lemma lookup_eq_none : g.index.lookup name = none ↔ name ∉ g.grammar.names := by
  have hmem : name ∈ g.grammar.names ↔ ∃ i, (g.rules.map Rule.name)[i]? = some name := List.mem_iff_getElem?
  simp only [hmem, ← g.indexed, Option.eq_none_iff_forall_ne_some, not_exists]

lemma find?_of_lookup (h : g.index.lookup name = some i) :
    ∃ r, g.find? name = some r ∧ g.rules[i]? = some r ∧ r.name = name := by
  obtain ⟨r, hr, hname⟩ := Option.map_eq_some_iff.mp (List.getElem?_map .. ▸ (g.indexed name i).mp h)
  exact ⟨r, by rw [find?, h, Option.bind_some, hr], hr, hname⟩

lemma find?_grammar (g : Registry) (name : String) : g.grammar.find? name = g.find? name := by
  cases h : g.index.lookup name with
  | none => rw [Grammar.find?_eq_none.mpr (lookup_eq_none.mp h), find?, h, Option.bind_none]
  | some i =>
    obtain ⟨r, hfind, hr, rfl⟩ := find?_of_lookup h
    rw [hfind, Grammar.find?_of_mem (List.mem_of_getElem? hr)]

lemma name_of_find? (h : g.find? name = some r) : r.name = name := by
  rw [← find?_grammar] at h
  exact (Grammar.find?_eq_some h).2

lemma contains_grammar (g : Registry) (name : String) : g.grammar.contains name = g.contains name := by
  rw [Bool.eq_iff_iff, Grammar.contains, List.contains_iff_mem, contains, ← Option.ne_none_iff_isSome,
    ne_eq, lookup_eq_none, not_not]

lemma dangling?_grammar (g : Registry) : g.grammar.dangling? = g.dangling? := by
  simp only [Grammar.dangling?, contains_grammar]
  rfl

lemma isClosed_grammar (g : Registry) : g.grammar.isClosed = g.isClosed :=
  congrArg Option.isNone g.dangling?_grammar

lemma set_eq_replace (h : g.index.lookup r.name = some i) : g.rules.set i r = Grammar.replace r g.rules := by
  apply List.ext_getElem?
  intro j
  rw [Grammar.replace, List.getElem?_map, List.getElem?_set]
  split
  · next hij =>
    subst hij
    obtain ⟨s, -, hs, hname⟩ := find?_of_lookup h
    rw [hs, Option.map_some, if_pos hname, if_pos (List.getElem?_eq_some_iff.mp hs).1]
  · next hij =>
    cases hs : g.rules[j]? with
    | none => rfl
    | some s =>
      -- With the name of the new rule this one would be in two places.
      have hne : s.name ≠ r.name := by
        intro hname
        have hj := (g.indexed s.name j).mpr (by rw [List.getElem?_map, hs, Option.map_some])
        rw [hname, h] at hj
        exact hij (Option.some.inj hj)
      rw [Option.map_some, if_neg hne]

lemma grammar_define (g : Registry) (r : Rule) : (g.define r).grammar = g.grammar.define r := by
  apply Grammar.ext
  rw [define]
  split
  · next i h =>
    have hmem : r.name ∈ g.grammar.names := by
      by_contra hnot
      rw [lookup_eq_none.mpr hnot] at h
      cases h
    rw [Grammar.define, dif_pos hmem]
    exact set_eq_replace h
  · next h =>
    rw [Grammar.define, dif_neg (lookup_eq_none.mp h)]
    rfl

lemma grammar_ofRules (ds : List Rule) : (ofRules ds).grammar = Grammar.ofRules ds := by
  induction ds using List.reverseRecOn with
  | nil => rfl
  | append_singleton ds d ih =>
    have hdefine : ofRules (ds ++ [d]) = (ofRules ds).define d := List.foldl_concat ..
    rw [hdefine, grammar_define, ih, Grammar.ofRules_concat]

lemma rule_eq_ok : g.rule name = .ok r ↔ r ∈ g.rules ∧ r.name = name := by
  have hrule : g.rule name = .ok r ↔ g.find? name = some r := by
    rw [rule]
    cases g.find? name <;> simp
  rw [hrule, ← find?_grammar]
  constructor
  · exact Grammar.find?_eq_some
  · rintro ⟨hr, rfl⟩
    exact Grammar.find?_of_mem hr

lemma rule_eq_error {e : GrammarError} :
    g.rule name = .error e ↔ name ∉ g.rules.map Rule.name ∧ e = .unknownRule name := by
  have hrule : g.rule name = .error e ↔ g.find? name = none ∧ e = .unknownRule name := by
    rw [rule]
    cases g.find? name <;> simp [eq_comm]
  rw [hrule, ← find?_grammar, Grammar.find?_eq_none]
  rfl

lemma contains_iff : g.contains name = true ↔ name ∈ g.rules.map Rule.name := by
  rw [← contains_grammar]
  exact List.contains_iff_mem

structure Reflects (g : Registry) (ds : List Rule) : Prop where
  names : FirstsOf (g.rules.map Rule.name) (ds.map Rule.name)
  rules : ∀ r, r ∈ g.rules ↔ LastDefinition ds r
  rule_ok : ∀ name r, g.rule name = .ok r ↔ r ∈ g.rules ∧ r.name = name
  rule_error : ∀ name e, g.rule name = .error e ↔ name ∉ g.rules.map Rule.name ∧ e = .unknownRule name
  contains : ∀ name, g.contains name = true ↔ name ∈ g.rules.map Rule.name
  closed : g.isClosed = true ↔ ∀ r, LastDefinition ds r → ∀ t ∈ r.references, t ∈ g.rules.map Rule.name
  grammar : g.grammar = .ofRules ds

end Registry

/-- However often the rules are defined again, a registry has each of them once, as it was defined last, and whatever
looks for a rule in it looks among these. -/
theorem registry_reflects (ds : List Rule) : (Registry.ofRules ds).Reflects ds := by
  have hgrammar : (Registry.ofRules ds).grammar = .ofRules ds := Registry.grammar_ofRules ds
  have hrules : ∀ r, r ∈ (Registry.ofRules ds).rules ↔ LastDefinition ds r := by
    intro r
    rw [← Grammar.mem_rules_ofRules, ← hgrammar]
    rfl
  refine ⟨?_, hrules, fun _ _ => Registry.rule_eq_ok, fun _ _ => Registry.rule_eq_error,
    fun _ => Registry.contains_iff, ?_, hgrammar⟩
  · have hnames := Grammar.firstsOf_names ds
    rwa [← hgrammar] at hnames
  · rw [← Registry.isClosed_grammar, Grammar.isClosed_iff]
    simp only [← hrules]
    rfl

example : (Registry.ofRules [⟨"a", [[.rule "lost"]]⟩, ⟨"b", [[.rule "a"]]⟩, ⟨"a", [[]]⟩]).isClosed = true ∧
    (Registry.ofRules [⟨"a", [[.rule "lost"]]⟩, ⟨"b", [[.rule "a"]]⟩]).isClosed = false := by
  decide

end GlowSyntax
