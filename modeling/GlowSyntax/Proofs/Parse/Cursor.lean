import GlowSyntax.Parse.Cursor
import GlowSyntax.Proofs.Match.Probe
import GlowSyntax.Proofs.Match.TokenList
import GlowSyntax.Proofs.Parse.Outcome

/-!
What a parse does to a cursor. It moves it behind the match of the start rule, if there is one, and leaves it
where it was if there is none. So a parse that succeeds has moved it, and one that fails has not, except where an
end is required and what stands behind the match is something else.
-/

namespace GlowSyntax

open Probe

lemma peek_eq (c : Cursor) : (Probe.peek c).1.log = [.scan c.state] ∧ (Probe.peek c).2 = c ∧
    (Probe.peek c).1.result = (c.scanner.peek c.state).mapError .scan := by
  have h := peek_mirrors c
  refine ⟨h.log_eq, h.left, ?_⟩
  cases hn : c.scanner.next c.state with
  | error e =>
    rw [h.error (.scan e) (by simp only [scanToken, hn]), Scanner.peek, hn]
    rfl
  | ok out =>
    obtain ⟨_, ht, rfl⟩ := h.result out (by simp only [scanToken, hn])
    rw [ht, Scanner.peek, hn]
    rfl

namespace Parser

variable (p : Parser) (start : String) (c : Cursor)

lemma parseAt_eq : (p.parseAt start c).1.1 = (p.parseFrom c.scanner c.state start).log ∧
    (p.parseAt start c).1.2 = (p.parseFrom c.scanner c.state start).result ∧
    (p.parseAt start c).2 = c.restore (p.parseFrom c.scanner c.state start).state := by
  obtain ⟨hlog, hresult, hc⟩ := c.attemptRule_eq p.grammar p.options.maxRecursion start 0
  rw [parseAt, parseFrom]
  simp only [Run.record, hlog, hresult, hc]
  cases hr : (attemptRule p.grammar p.options.maxRecursion c.scanner start c.state 0).result with
  | error e => simp [Cursor.restore]
  | ok found =>
    cases found with
    | none =>
      obtain ⟨hlook, hd, hpeek⟩ := peek_eq c
      simp only [hlook, hd, hpeek]
      cases c.scanner.peek c.state <;> simp [Cursor.restore, Except.mapError, ParseError.ofMatch]
    | some tree =>
      obtain ⟨hlook, hd, hpeek⟩ := peek_eq (c.restore tree.stop)
      simp only [hlook, hd, hpeek]
      split
      · simp only [Cursor.restore]
        cases c.scanner.peek tree.stop with
        | error e => simp [Except.mapError, ParseError.ofMatch]
        | ok t =>
          simp only [Except.mapError]
          by_cases ht : t.isEnd
          · simp only [if_pos ht, and_self]
          · simp only [if_neg ht]
            exact ⟨trivial, rfl, trivial⟩
      · simp

structure Overruns (tree : Tree) : Prop where
  matched : (p.attempt c.scanner c.state start).result = .ok (some tree)
  requireEnd : p.options.requireEnd = true
  behind : ∀ t, c.scanner.peek tree.stop = .ok t → ¬ t.isEnd

variable {p start c}

lemma parseFrom_state {sc : Scanner} {s : ScanState} {found : Option Tree}
    (h : (p.attempt sc s start).result = .ok found) :
    (p.parseFrom sc s start).state = found.elim s Tree.stop := by
  rw [attempt] at h
  rw [parseFrom, h]
  cases found with
  | none => cases sc.peek s <;> rfl
  | some tree =>
    dsimp only
    split
    · cases sc.peek tree.stop with
      | error e => rfl
      | ok t => by_cases ht : t.isEnd <;> simp [ht]
    · rfl

lemma parseFrom_state_error {sc : Scanner} {s : ScanState} {e : MatchError}
    (h : (p.attempt sc s start).result = .error e) : (p.parseFrom sc s start).state = s := by
  rw [attempt] at h
  rw [parseFrom, h]

lemma parseFrom_state_ok {sc : Scanner} {s : ScanState} {tree : Tree}
    (h : (p.parseFrom sc s start).result = .ok tree) : (p.parseFrom sc s start).state = tree.stop := by
  exact parseFrom_state (attempt_of_parseFrom h)

lemma parseFrom_state_stays {e : ParseError} (h : (p.parseFrom c.scanner c.state start).result = .error e)
    (hno : ∀ tree, ¬ p.Overruns start c tree) : (p.parseFrom c.scanner c.state start).state = c.state := by
  have ho := p.outcome_parseFrom c.scanner c.state start
  rw [h] at ho
  cases ho with
  | ended hr => exact parseFrom_state_error hr
  | unread hr _ => exact parseFrom_state hr
  | noMatch hr _ => exact parseFrom_state hr
  | restUnread hr hend hp =>
    refine absurd ⟨hr, hend, fun t ht => ?_⟩ (hno _)
    cases hp.symm.trans ht
  | trailing hr hend hp hne =>
    refine absurd ⟨hr, hend, fun t ht => ?_⟩ (hno _)
    cases hp.symm.trans ht
    exact hne

lemma Overruns.fails {tree : Tree} (h : p.Overruns start c tree) :
    (∃ t fs, (p.parseFrom c.scanner c.state start).result = .error (.trailing start t fs)) ∨
      ∃ e, (p.parseFrom c.scanner c.state start).result = .error (.scan e) := by
  have ho := p.outcome_parseFrom c.scanner c.state start
  generalize (p.parseFrom c.scanner c.state start).result = out at ho
  cases ho with
  | ended hr => cases h.matched.symm.trans hr
  | unread hr _ => cases h.matched.symm.trans hr
  | noMatch hr _ => cases h.matched.symm.trans hr
  | restUnread _ _ _ => exact Or.inr ⟨_, rfl⟩
  | trailing _ _ _ _ => exact Or.inl ⟨_, _, rfl⟩
  | complete hr _ hp ht =>
    cases h.matched.symm.trans hr
    exact absurd ht (h.behind _ hp)
  | partly _ hend => cases h.requireEnd.symm.trans hend

end Parser

theorem parseAt_moves (p : Parser) (start : String) (c : Cursor) :
    (∀ tree, (p.parseAt start c).1.2 = .ok tree → (p.parseAt start c).2 = c.restore tree.stop) ∧
    (∀ e, (p.parseAt start c).1.2 = .error e → (∀ tree, ¬ p.Overruns start c tree) → (p.parseAt start c).2 = c) ∧
    ∀ tree, p.Overruns start c tree → (p.parseAt start c).2 = c.restore tree.stop ∧
      ((∃ t fs, (p.parseAt start c).1.2 = .error (.trailing start t fs)) ∨
        ∃ e, (p.parseAt start c).1.2 = .error (.scan e)) := by
  obtain ⟨-, hresult, hcursor⟩ := p.parseAt_eq start c
  rw [hresult, hcursor]
  refine ⟨fun tree h => ?_, fun e h hno => ?_, fun tree h => ⟨?_, h.fails⟩⟩
  · rw [Parser.parseFrom_state_ok h]
  · rw [Parser.parseFrom_state_stays h hno]
    rfl
  · rw [Parser.parseFrom_state h.matched]
    rfl

def leftover : Cursor := .start (.glow (.ofText "leftover" "a b"))

theorem parseAt_moves_leftover :
    (∃ tree, Parser.glow.Overruns "atomic" leftover tree ∧
      (Parser.glow.parseAt "atomic" leftover).2 = leftover.restore ⟨1, 1, 2, .code⟩) ∧
    (Parser.glow.parseAt "paren" leftover).1.2.toOption = none ∧
    (Parser.glow.parseAt "paren" leftover).2 = leftover := by
  constructor
  · have hstop : ((Parser.glow.attempt leftover.scanner leftover.state "atomic").result.toOption.join).map
        Tree.stop = some ⟨1, 1, 2, .code⟩ := by decide +kernel
    have hpeek : ((leftover.scanner.peek ⟨1, 1, 2, .code⟩).toOption.map Token.isEnd) = some false := by
      decide +kernel
    obtain ⟨tree, htree, hs⟩ := Option.map_eq_some_iff.mp hstop
    have hover : Parser.glow.Overruns "atomic" leftover tree := by
      refine ⟨eq_ok_of_toOption (Option.join_eq_some_iff.mp htree), rfl, fun t ht => ?_⟩
      rw [hs] at ht
      simpa [ht, Except.toOption] using hpeek
    exact ⟨tree, hover, hs ▸ ((parseAt_moves Parser.glow "atomic" leftover).2.2 tree hover).1⟩
  · have hfails : (Parser.glow.parseAt "paren" leftover).1.2.toOption = none := by decide +kernel
    have hnone : (Parser.glow.attempt leftover.scanner leftover.state "paren").result.toOption.join = none := by
      decide +kernel
    refine ⟨hfails, ?_⟩
    cases he : (Parser.glow.parseAt "paren" leftover).1.2 with
    | ok tree =>
      rw [he] at hfails
      cases hfails
    | error e =>
      refine (parseAt_moves Parser.glow "paren" leftover).2.1 e he fun tree hover => ?_
      rw [hover.matched] at hnone
      cases hnone

theorem leftover_moves :
    (Parser.glow.parseAt "atomic" leftover).1.2.toOption = none ∧
    (Parser.glow.parseAt "atomic" leftover).2.state ≠ leftover.state := by
  constructor <;> decide +kernel

end GlowSyntax
