import GlowSyntax.Proofs.Match.Abreast
import GlowSyntax.Proofs.Match.TokenList
import GlowSyntax.Proofs.Parse.Outcome

namespace GlowSyntax

def ParseError.placeless : ParseError → ParseError
  | noMatch rule t fs => noMatch rule t.placeless (fs.map Failure.placeless)
  | trailing rule t fs => trailing rule t.placeless (fs.map Failure.placeless)
  | e => e

def Parsing.placeless (out : Parsing) : Except ParseError Tree :=
  match out.result with
  | .ok tree => .ok tree.placeless
  | .error e => .error e.placeless

namespace Scanner

variable {sc sc' : Scanner} {i : Nat} {s s' : ScanState}

lemma Alike.peek (halike : Alike sc sc') (hs : Level sc sc' i s s') :
    ∃ t t', sc.peek s = .ok t ∧ sc'.peek s' = .ok t' ∧ t.placeless = t'.placeless := by
  obtain ⟨t, m, t', m', hn, hn', ht⟩ := halike i s s' hs
  exact ⟨t, t', peek_eq_ok.mpr ⟨m, hn⟩, peek_eq_ok.mpr ⟨m', hn'⟩, ht⟩

end Scanner

lemma parse_placeless_of_alike (p : Parser) (start : String) {source source' : SourceFile}
    (halike : Scanner.Alike (.glow source) (.glow source')) :
    (p.parse source start).placeless = (p.parse source' start).placeless := by
  have h := attemptRule_abreast p.grammar p.options.maxRecursion halike start
  have hrecord := h.record
  have hdeepest := congrArg FailureRecord.deepest hrecord
  have hattempts := congrArg FailureRecord.attempts hrecord
  simp only [FailureRecord.placeless] at hdeepest hattempts
  rw [Parser.parse, Parser.parse, Parser.parseFrom, Parser.parseFrom]
  obtain ⟨e, hx, hy⟩ | ⟨_, _, hx, hy, hr⟩ := h.result
  · simp only [hx, hy, Parsing.placeless]
  · simp only [hx, hy]
    cases hr with
    | none =>
      obtain ⟨t, t', ht, ht', hsame⟩ := halike.peek ⟨Scanner.reaches_start _, Scanner.reaches_start _⟩
      simp only [ht, ht', Parsing.placeless, ParseError.placeless, hsame, hattempts]
    | @some tree tree' htree =>
      obtain ⟨hplaceless, i, -, hstop⟩ := htree
      obtain ⟨t, t', ht, ht', hsame⟩ := halike.peek hstop
      dsimp only
      split
      · simp only [ht, ht', Token.isEnd_eq_of_placeless hsame]
        split
        · simp only [Parsing.placeless, hplaceless]
        · simp only [Parsing.placeless, ParseError.placeless, hsame, hdeepest,
            Tree.depth_eq_of_placeless hplaceless]
          split
          · rw [hattempts]
          · rfl
      · simp only [Parsing.placeless, hplaceless]

theorem parse_eq_of_tokens (p : Parser) (start : String) {source source' : SourceFile} {ts ts' : List Token}
    (h : (Scanner.glow source).tokenize .start = .ok ts) (h' : (Scanner.glow source').tokenize .start = .ok ts')
    (hsame : List.Forall₂ (fun t u => t.kind = u.kind ∧ t.content = u.content) ts ts') :
    (p.parse source start).placeless = (p.parse source' start).placeless := by
  refine parse_placeless_of_alike p start (Scanner.alike_of_tokenize h h' ?_)
  rw [← List.forall₂_eq_eq_eq, List.forall₂_map_left_iff, List.forall₂_map_right_iff]
  exact hsame.imp fun _ _ => Token.placeless_eq_iff.mpr

def denseSource : SourceFile := .ofText "dense" "var x=(1+;"

def spacedSource : SourceFile := .ofText "spaced" "var x = (1 // one\n\n\t+ // two\n;"

theorem parse_eq_of_tokens_spaced :
    (∃ ts ts', (Scanner.glow denseSource).tokenize .start = .ok ts ∧
      (Scanner.glow spacedSource).tokenize .start = .ok ts' ∧
      List.Forall₂ (fun t u => t.kind = u.kind ∧ t.content = u.content) ts ts' ∧
      (Parser.glow.parse denseSource Grammar.glowStart).placeless
        = (Parser.glow.parse spacedSource Grammar.glowStart).placeless) ∧
    (Parser.glow.parse denseSource Grammar.glowStart).result
      ≠ (Parser.glow.parse spacedSource Grammar.glowStart).result := by
  have hdense : ((Scanner.glow denseSource).tokenize .start).toOption.isSome = true := by decide +kernel
  have hspaced : ((Scanner.glow spacedSource).tokenize .start).toOption.isSome = true := by decide +kernel
  have hsame : List.Forall₂ (fun t u => t.kind = u.kind ∧ t.content = u.content)
      (((Scanner.glow denseSource).tokenize .start).toOption.getD [])
      (((Scanner.glow spacedSource).tokenize .start).toOption.getD []) := by decide +kernel
  obtain ⟨ts, h⟩ := exists_ok_of_isSome hdense
  obtain ⟨ts', h'⟩ := exists_ok_of_isSome hspaced
  rw [h, h'] at hsame
  refine ⟨⟨ts, ts', h, h', hsame, ?_⟩, by decide +kernel⟩
  exact parse_eq_of_tokens Parser.glow Grammar.glowStart h h' hsame

end GlowSyntax
