import GlowSyntax.Proofs.Glow.Language
import GlowSyntax.Proofs.Parse.Outcome
import GlowSyntax.Proofs.Scan.Strings

namespace GlowSyntax

structure Forest.IsText (f : Forest) : Prop where
  captured : f.capturedTokens = f.tokens
  chars : ∀ t ∈ f.tokens, t.kind.IsChar

namespace Forest.IsText

lemma nil : Forest.nil.IsText := ⟨rfl, by simp [Forest.tokens]⟩

lemma tree {f : Forest} (h : f.IsText) (l : String) (node : Node) : (Forest.tree (some l) node f .nil).IsText where
  captured := by
    show f.capturedTokens ++ [] = f.tokens ++ []
    rw [h.captured]
  chars := by simpa [Forest.tokens] using h.chars

lemma char {t : Token} {node : Node} {parts : Forest} (ht : t.kind.IsChar) (h : (Forest.tree (some "rest") node parts .nil).IsText) :
    (Forest.token (some "char") t (.tree (some "rest") node parts .nil)).IsText where
  captured := congrArg (t :: ·) h.captured
  chars := List.forall_mem_cons.mpr ⟨ht, h.chars⟩

end Forest.IsText

def charsRule : Rule := ⟨"chars", [
  [.tokenAs .stringChar "char", .ruleAs "chars" "rest"],
  [.tokenAs .escapedQuote "char", .ruleAs "chars" "rest"],
  []]⟩

lemma Forest.Fits.isText {items : List Item} {f : Forest} (h : Forest.Fits .glow items f) :
    (∀ l, items = [.ruleAs "chars" l] → f.IsText) ∧ (items ∈ charsRule.alternatives → f.IsText) := by
  induction h with
  | nil => exact ⟨fun l hl => (List.cons_ne_nil _ _ hl.symm).elim, fun _ => .nil⟩
  | @token k label t items rest hk hrest ih =>
    refine ⟨fun l hl => by simp [Item.ruleAs] at hl, fun hmem => ?_⟩
    obtain ⟨hchar, rfl, rfl⟩ : k.IsChar ∧ label = some "char" ∧ items = [.ruleAs "chars" "rest"] := by
      simp only [charsRule, Item.tokenAs, List.mem_cons, List.cons.injEq, Item.mk.injEq, Symbol.token.injEq,
        List.not_mem_nil, reduceCtorEq, or_false] at hmem
      obtain ⟨⟨hk, hl⟩, hi⟩ | ⟨⟨hk, hl⟩, hi⟩ := hmem
      · exact ⟨.inl hk, hl, hi⟩
      · exact ⟨.inr hk, hl, hi⟩
    have htext := ih.1 "rest" rfl
    cases hrest with
    | tree hf ha hparts hnil =>
      cases hnil
      exact .char (hk ▸ hchar) htext
  | @tree name label node a parts items rest hf ha hparts hrest ihparts ihrest =>
    refine ⟨fun l hl => ?_, fun hmem => by simp [charsRule, Item.tokenAs] at hmem⟩
    obtain ⟨⟨rfl, rfl⟩, rfl⟩ : (name = "chars" ∧ label = some l) ∧ items = [] := by
      simpa [Item.ruleAs] using hl
    cases hrest
    have hrule : node.rule = charsRule := Option.some.inj (hf.symm.trans rfl)
    rw [hrule] at ha
    exact (ihparts.2 (List.mem_of_getElem? ha)).tree l node

lemma Forest.Fits.quoted {tree : Tree} (h : Forest.Fits .glow [.rule "string"] tree.forest) :
    ∃ q ts c, tree.parts.tokens = q :: (ts ++ [c]) ∧ q.kind = .quote ∧ (∀ t ∈ ts, t.kind.IsChar) ∧ c.kind = .quote ∧
      tree.parts.capturedTokens = ts := by
  cases h with
  | tree hf ha hparts _ =>
    have hrule : tree.node.rule = ⟨"string", [[.token .quote, .ruleAs "chars" "body", .token .quote]]⟩ :=
      Option.some.inj (hf.symm.trans rfl)
    rw [hrule] at ha
    obtain rfl := List.mem_singleton.mp (List.mem_of_getElem? ha)
    generalize tree.parts = parts at hparts
    cases hparts with
    | @token _ _ q _ _ hq hrest =>
      cases hrest with
      | @tree _ _ node _ body _ _ hf ha hbody hrest =>
        have hchars : Forest.Fits .glow [.ruleAs "chars" "body"] (.tree (some "body") node body .nil) :=
          .tree hf ha hbody .nil
        have htext := hchars.isText.1 "body" rfl
        cases hrest with
        | @token _ _ c _ _ hc hnil =>
          cases hnil
          exact ⟨q, body.tokens, c, rfl, hq, by simpa [Forest.tokens] using htext.chars, hc,
            htext.captured.trans (List.append_nil _)⟩

lemma Tree.tokens_of_sorted {tree : Tree}
    (h : tree.parts.capturedTokens.Pairwise fun a b => a.span.start ≤ b.span.start) :
    tree.tokens = tree.parts.capturedTokens :=
  List.mergeSort_of_pairwise (by simpa using h)

structure Tree.Encloses (source : SourceFile) (tree : Tree) (q c : Token) (ts : List Token)
    (before inner after : List Char) : Prop where
  tokens_eq : tree.parts.tokens = q :: (ts ++ [c])
  quotes : q.kind = .quote ∧ c.kind = .quote
  opens : ∃ m, (Scanner.glow source).next .start = .ok (q, m) ∧
    m.Between source (before ++ ['"']) (inner ++ '"' :: after)
  closes : tree.stop.Between source (before ++ ['"'] ++ (inner ++ ['"'])) after

/-- The contents of the tokens of a string are the text between its quotes without the line breaks. The tokens are sorted
by their spans, which changes nothing in a source that has fewer bytes than there are offsets. -/
theorem string_tokens_text {source : SourceFile} {tree : Tree}
    (h : (Parser.glow.parse source "string").result = .ok tree) :
    ∃ q c ts before inner after, tree.Encloses source q c ts before inner after ∧
      ts.flatMap (·.content.toList) = inner.filter (· ≠ '\n') ∧
      tree.tokens = ts.mergeSort (fun a b => a.span.start ≤ b.span.start) ∧
      (Text.size source.text < 2 ^ 32 → tree.tokens = ts) := by
  obtain ⟨hfit, hyields⟩ := Parser.extent_of_parseFrom h
  obtain ⟨q, ts, c, htokens, hq, hchars, hc, hcaptured⟩ := hfit.quoted
  rw [htokens] at hyields
  have hkinds : ∀ t ∈ ts, t.kind ≠ .quote := by
    intro t ht heq
    rcases hchars t ht with hk | hk <;> cases heq.symm.trans hk
  obtain ⟨m, before, inner, after, hopen, hm, hstop, hfilter⟩ :=
    Scanner.yields_quoted (ScanState.located_start source) (by decide) hyields hq hkinds hc
  subst hcaptured
  refine ⟨q, c, _, before, inner, after, ⟨htokens, ⟨hq, hc⟩, ⟨m, hopen, hm⟩, hstop⟩, hfilter, rfl, fun hsize => ?_⟩
  exact Tree.tokens_of_sorted ((hyields.sorted hsize).2.tail.sublist (List.sublist_append_left _ [c]))

lemma tokens_of_run (source : SourceFile) (contents : List String)
    (h : (Parser.glow.parse source "string").result.toOption.map (fun tree =>
      (tree.parts.capturedTokens.map Token.content,
        decide (tree.parts.capturedTokens.Pairwise fun a b => a.span.start ≤ b.span.start))) = some (contents, true)) :
    ∃ tree, (Parser.glow.parse source "string").result = .ok tree ∧ tree.tokens.map Token.content = contents := by
  obtain ⟨tree, htree, heq⟩ := Option.map_eq_some_iff.mp h
  obtain ⟨hcontents, hsorted⟩ := Prod.mk.inj heq
  exact ⟨tree, eq_ok_of_toOption htree, Tree.tokens_of_sorted (of_decide_eq_true hsorted) ▸ hcontents⟩

def wrappedSource : SourceFile := .ofText "wrapped" "// c\n \"a \\\" b\n c\" // d"

theorem string_tokens_text_wrapped :
    ∃ tree, (Parser.glow.parse wrappedSource "string").result = .ok tree ∧
      tree.tokens.map Token.content = ["a", " ", "\\\"", " ", "b", " ", "c"] ∧
      ∃ q c before inner after, tree.Encloses wrappedSource q c tree.tokens before inner after ∧
        inner.filter (· ≠ '\n') = "a \\\" b c".toList := by
  obtain ⟨tree, hresult, hcontents⟩ := tokens_of_run wrappedSource ["a", " ", "\\\"", " ", "b", " ", "c"]
    (by decide +kernel)
  obtain ⟨q, c, ts, before, inner, after, hencloses, hfilter, -, htokens⟩ := string_tokens_text hresult
  have hsize : Text.size wrappedSource.text < 2 ^ 32 := by decide +kernel
  obtain rfl := htokens hsize
  refine ⟨tree, hresult, hcontents, q, c, before, inner, after, hencloses, ?_⟩
  rw [← hfilter, ← List.flatMap_map, hcontents]
  simp

def brokenString : SourceFile := .ofText "broken" "\"a\nb\""

theorem string_tokens_without_break :
    brokenString.text = '"' :: ("a\nb".toList ++ ['"']) ∧
    ∃ tree, (Parser.glow.parse brokenString "string").result = .ok tree ∧
      tree.tokens.flatMap (·.content.toList) = "ab".toList ∧
      tree.tokens.flatMap (·.content.toList) ≠ "a\nb".toList := by
  obtain ⟨tree, hresult, hcontents⟩ := tokens_of_run brokenString ["a", "b"] (by decide +kernel)
  have htext : tree.tokens.flatMap (·.content.toList) = "ab".toList := by
    rw [← List.flatMap_map, hcontents]
    simp
  refine ⟨by decide +kernel, tree, hresult, htext, ?_⟩
  rw [htext]
  simp

end GlowSyntax
