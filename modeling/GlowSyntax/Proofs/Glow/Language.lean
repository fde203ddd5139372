import GlowSyntax.Grammar.Glow
import GlowSyntax.Proofs.Grammar.Derivation

namespace GlowSyntax

inductive Phrase
  | chars
  | factor
  | operations
  | expr
  | declaration
  | program

def Kind.IsOperator (k : Kind) : Prop := k = .times ∨ k = .slash ∨ k = .plus ∨ k = .minus

def Kind.IsChar (k : Kind) : Prop := k = .stringChar ∨ k = .escapedQuote

def Kind.IsBinder (k : Kind) : Prop := k = .kwVar ∨ k = .kwConst

/-- The kinds of the tokens that a phrase of Glow can consist of:

    program     = declaration+
    declaration = (KwVar | KwConst) Name Assign expr Semicolon
    expr        = factor operations
    operations  = ((Asterisk | Div | Plus | Minus) factor)*
    factor      = ParenLeft expr ParenRight | Name | IntegerLiteral | DblQuote chars DblQuote
    chars       = (StringChar | EscapedDblQuote)*
-/
inductive Sentence : Phrase → List Kind → Prop
  | noChars : Sentence .chars []
  | moreChars {k w} : k.IsChar → Sentence .chars w → Sentence .chars (k :: w)
  | name : Sentence .factor [.identifier]
  | integer : Sentence .factor [.integer]
  | string {w} : Sentence .chars w → Sentence .factor (.quote :: w ++ [.quote])
  | paren {w} : Sentence .expr w → Sentence .factor (.parenOpen :: w ++ [.parenClose])
  | noOperations : Sentence .operations []
  | moreOperations {k u v} : k.IsOperator → Sentence .factor u → Sentence .operations v →
      Sentence .operations (k :: u ++ v)
  | expr {u v} : Sentence .factor u → Sentence .operations v → Sentence .expr (u ++ v)
  | declaration {k w} : k.IsBinder → Sentence .expr w →
      Sentence .declaration (k :: .identifier :: .assign :: w ++ [.semicolon])
  | lastDeclaration {w} : Sentence .declaration w → Sentence .program w
  | moreDeclarations {u v} : Sentence .declaration u → Sentence .program v → Sentence .program (u ++ v)

namespace Sentence

lemma end_not_mem {p : Phrase} {w : List Kind} (h : Sentence p w) : Kind.endOfFile ∉ w := by
  induction h with
  | moreChars hk _ ih => rcases hk with rfl | rfl <;> simpa using ih
  | moreOperations hk _ _ ihu ihv => rcases hk with rfl | rfl | rfl | rfl <;> simpa using ⟨ihu, ihv⟩
  | declaration hk _ ih => rcases hk with rfl | rfl <;> simpa using ih
  | _ => simp_all

end Sentence

def phraseOf (rule : String) : Phrase :=
  match rule with
  | "program" => .program
  | "declaration" => .declaration
  | "expr" => .expr
  | "expr_tail" => .operations
  | "chars" => .chars
  | _ => .factor

def SpellsGlow : List Item → List Kind → Prop := Spells fun rule => Sentence (phraseOf rule)

section Spells

variable {k : Kind} {name name' : String} {label label' : Option String} {items : List Item} {a : Alternative}
  {w : List Kind}

lemma spells_rule (h : SpellsGlow [⟨.rule name, label⟩] w) : Sentence (phraseOf name) w := by
  obtain ⟨u, _, rfl, hu, rfl⟩ := h
  rw [List.append_nil]
  exact hu

lemma spells_rules (h : SpellsGlow [⟨.rule name, label⟩, ⟨.rule name', label'⟩] w) :
    ∃ u v, w = u ++ v ∧ Sentence (phraseOf name) u ∧ Sentence (phraseOf name') v := by
  obtain ⟨u, v, rfl, hu, hv⟩ := h
  exact ⟨u, v, rfl, hu, spells_rule hv⟩

lemma spells_token (h : SpellsGlow (⟨.token k, label⟩ :: items) w) : ∃ v, w = k :: v ∧ SpellsGlow items v := h

lemma spells_enclosed {k' : Kind} (h : SpellsGlow [.token k, ⟨.rule name, label⟩, .token k'] w) :
    ∃ u, w = k :: u ++ [k'] ∧ Sentence (phraseOf name) u := by
  obtain ⟨_, rfl, u, _, rfl, hu, _, rfl, rfl⟩ := h
  exact ⟨u, rfl, hu⟩

lemma spells_binding (hk : k.IsBinder) (h : SpellsGlow (Grammar.binding k) w) : Sentence .declaration w := by
  obtain ⟨_, rfl, _, rfl, _, rfl, v, _, rfl, hv, _, rfl, rfl⟩ := h
  exact .declaration hk hv

lemma spells_chained (hk : k.IsOperator) (ha : a ∈ Grammar.chained k) (h : SpellsGlow a w) :
    Sentence .operations w := by
  simp only [Grammar.chained, List.mem_cons, List.not_mem_nil, or_false] at ha
  rcases ha with rfl | rfl
  · obtain ⟨v, rfl, hv⟩ := spells_token h
    obtain ⟨u, v, rfl, hu, hv⟩ := spells_rules hv
    exact .moreOperations hk hu hv
  · obtain ⟨_, rfl, u, _, rfl, hu, rfl⟩ := h
    exact .moreOperations hk hu .noOperations

lemma spells_closing (hk : k.IsOperator) (h : SpellsGlow (Grammar.closing k) w) : Sentence .operations w := by
  obtain ⟨v, rfl, hv⟩ := spells_token h
  have hexpr : Sentence .expr v := spells_rule hv
  cases hexpr with
  | expr hu hops => exact .moreOperations hk hu hops

lemma spells_char (hk : k.IsChar) (h : SpellsGlow [⟨.token k, label⟩, ⟨.rule "chars", label'⟩] w) :
    Sentence .chars w := by
  obtain ⟨v, rfl, hv⟩ := spells_token h
  exact .moreChars hk (spells_rule hv)

end Spells

lemma glow_spells : ∀ r ∈ Grammar.glow.rules, ∀ a ∈ r.alternatives, ∀ w,
    SpellsGlow a w → Sentence (phraseOf r.name) w := by
  rw [Grammar.glow, Grammar.rules_ofRules (by decide)]
  intro r hr a ha w h
  -- One case for each rule, in the order of the grammar, and in it one for each alternative.
  simp only [List.mem_cons, List.not_mem_nil, or_false] at hr
  rcases hr with rfl | rfl | rfl | rfl | rfl | rfl | rfl | rfl | rfl <;>
    simp only [List.mem_cons, List.mem_append, List.not_mem_nil, or_false] at ha
  · rcases ha with rfl | rfl
    · obtain ⟨u, v, rfl, hu, hv⟩ := spells_rules h
      exact .moreDeclarations hu hv
    · exact .lastDeclaration (spells_rule h)
  · rcases ha with rfl | rfl
    · exact spells_binding (Or.inl rfl) h
    · exact spells_binding (Or.inr rfl) h
  · rcases ha with rfl | rfl
    · obtain ⟨u, v, rfl, hu, hv⟩ := spells_rules h
      exact .expr hu hv
    · obtain ⟨u, _, rfl, hu, rfl⟩ := h
      exact .expr hu .noOperations
  · rcases ha with (ha | ha) | rfl | rfl | rfl
    · exact spells_chained (Or.inl rfl) ha h
    · exact spells_chained (Or.inr (Or.inl rfl)) ha h
    · exact spells_closing (Or.inr (Or.inr (Or.inl rfl))) h
    · exact spells_closing (Or.inr (Or.inr (Or.inr rfl))) h
    · obtain rfl := h
      exact .noOperations
  · rcases ha with rfl | rfl
    · change Sentence (phraseOf "paren") w
      exact spells_rule h
    · change Sentence (phraseOf "atomic") w
      exact spells_rule h
  · obtain rfl := ha
    obtain ⟨u, rfl, hu⟩ := spells_enclosed h
    exact .paren hu
  · rcases ha with rfl | rfl | rfl
    · obtain ⟨_, rfl, rfl⟩ := h
      exact .name
    · obtain ⟨_, rfl, rfl⟩ := h
      exact .integer
    · change Sentence (phraseOf "string") w
      exact spells_rule h
  · obtain rfl := ha
    obtain ⟨u, rfl, hu⟩ := spells_enclosed h
    exact .string hu
  · rcases ha with rfl | rfl | rfl
    · exact spells_char (Or.inl rfl) h
    · exact spells_char (Or.inr rfl) h
    · obtain rfl := h
      exact .noChars

lemma Derives.sentence {rule : String} {w : List Kind} (h : Derives .glow [.rule rule] w) :
    Sentence (phraseOf rule) w :=
  spells_rule (h.spells glow_spells)

end GlowSyntax
