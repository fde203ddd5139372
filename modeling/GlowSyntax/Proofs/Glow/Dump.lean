import GlowSyntax.Proofs.Glow.Acceptance
import GlowSyntax.Proofs.Lexicon.Munch
import GlowSyntax.Proofs.Output
import GlowSyntax.Proofs.Parse.Trivia

/-!
The JSON of a program without its places and the tokens of the program determine each other. What is not captured are
keywords, operators and brackets, of which each has one spelling, and every alternative of a rule has its number.
-/

namespace GlowSyntax

variable {source first second : SourceFile} {s s' : ScanState} {t : Token} {ts us : List Token} {tree tree' : Tree}

lemma Grammar.glow_tells : ∀ r ∈ Grammar.glow.rules, ∀ a ∈ r.alternatives, a.Tells := by
  decide +kernel

namespace Scanner

lemma next_spelled (h : (Scanner.glow source).next s = .ok (t, s')) :
    (∀ w, t.kind.spelling? = some w → t.content = w) ∧ (t.isEnd → t.content = "") := by
  obtain ⟨m, hr, -⟩ := nextWithin_eq_ok h
  obtain ⟨rest, text, -, hf, ht, -⟩ := read_eq_ok hr
  have hcontent : t.content = String.ofList text := by rw [ht]
  refine ⟨fun w hw => hcontent.trans (Lexicon.spelling_of_find hf hw), fun hend => ?_⟩
  have hkind : t.kind = .endOfFile := by simpa [Token.isEnd] using hend
  rw [hcontent, (Lexicon.find_isEmpty hf).mpr hkind]

lemma Yields.spelled (h : Yields (.glow source) s ts s') :
    ∀ u ∈ ts, ∀ w, u.kind.spelling? = some w → u.content = w := by
  induction h with
  | nil => simp
  | cons hn _ ih => exact List.forall_mem_cons.mpr ⟨(next_spelled hn).1, ih⟩

end Scanner

lemma tokens_of_parse (h : (parseGlow source).result = .ok tree) :
    ∃ e, (Scanner.glow source).tokenize .start = .ok (tree.parts.tokens ++ [e]) ∧ e.kind = .endOfFile ∧
      e.content = "" ∧ tree.parts.Spelled ∧ Forest.Fits .glow [.rule Grammar.glowStart] tree.forest := by
  obtain ⟨e, m, hyields, hn, he, hsentence⟩ := sentence_of_parse h
  obtain ⟨ts, hts⟩ := Scanner.tokenize_of_end hyields hn he
  obtain rfl := Scanner.collect_of_yields hts hyields hsentence.not_isEnd hn he
  exact ⟨e, hts, by simpa [Token.isEnd] using he, (Scanner.next_spelled hn).2 he, hyields.spelled,
    (Parser.extent_of_parseFrom h).1⟩

lemma forall₂_iff_placeless : List.Forall₂ (fun t u => t.kind = u.kind ∧ t.content = u.content) ts us ↔
    ts.map Token.placeless = us.map Token.placeless := by
  rw [← List.forall₂_eq_eq_eq, List.forall₂_map_left_iff, List.forall₂_map_right_iff]
  simp only [Token.placeless_eq_iff]

lemma json_eq_of_tokens (h : (parseGlow first).result = .ok tree) (h' : (parseGlow second).result = .ok tree')
    (hts : (Scanner.glow first).tokenize .start = .ok ts) (hus : (Scanner.glow second).tokenize .start = .ok us)
    (hsame : ts.map Token.placeless = us.map Token.placeless) :
    tree.json.without placeKeys = tree'.json.without placeKeys := by
  have hparse := parse_placeless_of_alike .glow Grammar.glowStart (Scanner.alike_of_tokenize hts hus hsame)
  have hfirst : (Parser.glow.parse first Grammar.glowStart).placeless = .ok tree.placeless := by
    rw [Parsing.placeless, show (Parser.glow.parse first Grammar.glowStart).result = .ok tree from h]
  have hsecond : (Parser.glow.parse second Grammar.glowStart).placeless = .ok tree'.placeless := by
    rw [Parsing.placeless, show (Parser.glow.parse second Grammar.glowStart).result = .ok tree' from h']
  have htree : tree.placeless = tree'.placeless := Except.ok.inj (hfirst.symm.trans (hparse.trans hsecond))
  rw [← tree.json_placeless, htree, tree'.json_placeless]

theorem json_eq_iff_tokens {first second : SourceFile} {tree tree' : Tree}
    (h : (parseGlow first).result = .ok tree) (h' : (parseGlow second).result = .ok tree') :
    ∃ ts us, (Scanner.glow first).tokenize .start = .ok ts ∧ (Scanner.glow second).tokenize .start = .ok us ∧
      (tree.json.without placeKeys = tree'.json.without placeKeys ↔
        List.Forall₂ (fun t u => t.kind = u.kind ∧ t.content = u.content) ts us) := by
  obtain ⟨e, htokens, hkind, hcontent, hspelled, hfit⟩ := tokens_of_parse h
  obtain ⟨e', htokens', hkind', hcontent', hspelled', hfit'⟩ := tokens_of_parse h'
  refine ⟨_, _, htokens, htokens', ?_⟩
  rw [forall₂_iff_placeless]
  refine ⟨fun hjson => ?_, json_eq_of_tokens h h' htokens htokens'⟩
  have hend : e.placeless = e'.placeless :=
    Token.placeless_eq_iff.mpr ⟨hkind.trans hkind'.symm, hcontent.trans hcontent'.symm⟩
  have htokens := Tree.placeless_tokens_eq Grammar.glow_tells hfit hfit' hspelled hspelled' hjson
  rw [List.map_append, List.map_append, htokens, List.map_singleton, List.map_singleton, hend]

def denseQuotient : SourceFile := .ofText "dense" "var x=(\"a\"/1);"

def spacedQuotient : SourceFile := .ofText "spaced" "// c\nvar x =\n  ( \"a\" / 1 ) ;"

def denseProduct : SourceFile := .ofText "dense" "var x=(\"a\"*1);"

theorem json_eq_iff_tokens_quotient :
    ∃ tree tree' tree'', (parseGlow denseQuotient).result = .ok tree ∧ (parseGlow spacedQuotient).result = .ok tree' ∧
      (parseGlow denseProduct).result = .ok tree'' ∧ tree.json.without placeKeys = tree'.json.without placeKeys ∧
      tree.json.without placeKeys ≠ tree''.json.without placeKeys := by
  have hquotient : (parseGlow denseQuotient).result.toOption.isSome = true := by decide +kernel
  have hspaced : (parseGlow spacedQuotient).result.toOption.isSome = true := by decide +kernel
  have hproduct : (parseGlow denseProduct).result.toOption.isSome = true := by decide +kernel
  have hsame : List.Forall₂ (fun t u => t.kind = u.kind ∧ t.content = u.content)
      (((Scanner.glow denseQuotient).tokenize .start).toOption.getD [])
      (((Scanner.glow spacedQuotient).tokenize .start).toOption.getD []) := by decide +kernel
  have hother : ¬ List.Forall₂ (fun t u => t.kind = u.kind ∧ t.content = u.content)
      (((Scanner.glow denseQuotient).tokenize .start).toOption.getD [])
      (((Scanner.glow denseProduct).tokenize .start).toOption.getD []) := by decide +kernel
  obtain ⟨tree, h⟩ := exists_ok_of_isSome hquotient
  obtain ⟨tree', h'⟩ := exists_ok_of_isSome hspaced
  obtain ⟨tree'', h''⟩ := exists_ok_of_isSome hproduct
  obtain ⟨ts, us, hts, hus, hiff⟩ := json_eq_iff_tokens h h'
  obtain ⟨ts', vs, hts', hvs, hiff'⟩ := json_eq_iff_tokens h h''
  rw [hts, hus] at hsame
  rw [hts', hvs] at hother
  exact ⟨tree, tree', tree'', h, h', h'', hiff.mpr hsame, mt hiff'.mp hother⟩

end GlowSyntax
