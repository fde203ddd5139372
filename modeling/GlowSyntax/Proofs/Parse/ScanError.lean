import GlowSyntax.Proofs.Match.Extent
import GlowSyntax.Proofs.Match.TokenList
import GlowSyntax.Proofs.Parse.Outcome

/-!
Scan errors do not depend on the grammar: a parse that ends with one has read up to it from the start of the
source, through tokens that any scan of the source yields.
-/

namespace GlowSyntax

variable {p : Parser} {source : SourceFile} {start : String}

lemma exists_yields_of_scanError {e : ScanError} (h : (p.parse source start).result = .error (.scan e)) :
    ∃ ts s, (Scanner.glow source).Yields .start ts s ∧ (Scanner.glow source).next s = .error e := by
  have ho := p.outcome_parseFrom (.glow source) .start start
  rw [Parser.parse] at h
  rw [h] at ho
  generalize hout : (.error (.scan e) : Except ParseError Tree) = out at ho
  cases ho with
  | @ended err hr =>
    have hraised := (attemptRule_extent start .start 0).error _ hr
    cases err with
    | scan e' =>
      cases hout
      exact hraised
    | grammar _ => cases hout
    | recursionLimit _ _ => cases hout
  | unread _ hp =>
    cases hout
    exact ⟨[], .start, .nil, Scanner.peek_eq_error.mp hp⟩
  | restUnread hr _ hp =>
    cases hout
    obtain ⟨-, ha⟩ := (attemptRule_extent start .start 0).result _ hr
    exact ⟨_, _, ha.yields, Scanner.peek_eq_error.mp hp⟩
  | _ => cases hout

lemma exists_yields_of_complete {tree : Tree} (hend : p.options.requireEnd = true)
    (h : (p.parse source start).result = .ok tree) :
    ∃ t s, (Scanner.glow source).Yields .start tree.parts.tokens tree.stop ∧
      (Scanner.glow source).next tree.stop = .ok (t, s) ∧ t.isEnd := by
  obtain ⟨t, s, hn, ht⟩ := Parser.end_of_parseFrom h hend
  exact ⟨t, s, (Parser.extent_of_parseFrom h).2, hn, ht⟩

theorem scanError_independent (p : Parser) (source : SourceFile) (start : String) :
    (∀ e, (p.parse source start).result = .error (.scan e) → (Scanner.glow source).tokenize .start = .error e) ∧
    (p.options.requireEnd = true → ∀ tree, (p.parse source start).result = .ok tree →
      ∃ ts, (Scanner.glow source).tokenize .start = .ok ts) := by
  constructor
  · intro e h
    obtain ⟨ts, s, hy, hn⟩ := exists_yields_of_scanError h
    exact Scanner.tokenize_of_error hy hn
  · intro hend tree h
    obtain ⟨t, s, hy, hn, ht⟩ := exists_yields_of_complete hend h
    exact Scanner.tokenize_of_end hy hn ht

def straySource : SourceFile := .ofText "stray" "const a = \"é\";\nvar x = (a - é"

def endedSource : SourceFile := .ofText "ended" "var x = (1 + y); // é"

theorem scanError_independent_stray :
    (∃ e, (Parser.glow.parse straySource Grammar.glowStart).result = .error (.scan e) ∧
      (Scanner.glow straySource).tokenize .start = .error e) ∧
    ∃ tree ts, (Parser.glow.parse endedSource Grammar.glowStart).result = .ok tree ∧
      (Scanner.glow endedSource).tokenize .start = .ok ts := by
  have hstray : (match (Parser.glow.parse straySource Grammar.glowStart).result with
      | .error (.scan _) => true
      | _ => false) = true := by decide +kernel
  have hended : (Parser.glow.parse endedSource Grammar.glowStart).result.toOption.isSome = true := by
    decide +kernel
  constructor
  · cases hr : (Parser.glow.parse straySource Grammar.glowStart).result with
    | ok tree =>
      rw [hr] at hstray
      cases hstray
    | error err =>
      rw [hr] at hstray
      cases err with
      | scan e => exact ⟨e, rfl, (scanError_independent Parser.glow straySource Grammar.glowStart).1 e hr⟩
      | _ => cases hstray
  · obtain ⟨tree, hr⟩ := exists_ok_of_isSome hended
    obtain ⟨ts, hts⟩ := (scanError_independent Parser.glow endedSource Grammar.glowStart).2 rfl tree hr
    exact ⟨tree, ts, hr, hts⟩

end GlowSyntax
