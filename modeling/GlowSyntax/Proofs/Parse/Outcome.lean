import GlowSyntax.Parse.Parser
import GlowSyntax.Proofs.Match.Extent

namespace GlowSyntax

namespace Parser

def attempt (p : Parser) (sc : Scanner) (s : ScanState) (start : String) : Run (Option Tree) :=
  attemptRule p.grammar p.options.maxRecursion sc start s 0

inductive Outcome (p : Parser) (sc : Scanner) (s : ScanState) (start : String) : Except ParseError Tree → Prop
  | ended {e} : (p.attempt sc s start).result = .error e → Outcome p sc s start (.error (.ofMatch e))
  | unread {e} : (p.attempt sc s start).result = .ok none → sc.peek s = .error e →
      Outcome p sc s start (.error (.scan e))
  | noMatch {t} : (p.attempt sc s start).result = .ok none → sc.peek s = .ok t →
      Outcome p sc s start (.error (.noMatch start t ((p.attempt sc s start).record .empty).attempts))
  | restUnread {tree e} : (p.attempt sc s start).result = .ok (some tree) → p.options.requireEnd = true →
      sc.peek tree.stop = .error e → Outcome p sc s start (.error (.scan e))
  | trailing {tree t} : (p.attempt sc s start).result = .ok (some tree) → p.options.requireEnd = true →
      sc.peek tree.stop = .ok t → ¬ t.isEnd →
      Outcome p sc s start (.error (.trailing start t
        (if ((p.attempt sc s start).record .empty).deepest.any (tree.depth < ·) then
          ((p.attempt sc s start).record .empty).attempts else [])))
  | complete {tree t} : (p.attempt sc s start).result = .ok (some tree) → p.options.requireEnd = true →
      sc.peek tree.stop = .ok t → t.isEnd → Outcome p sc s start (.ok tree)
  | partly {tree} : (p.attempt sc s start).result = .ok (some tree) → p.options.requireEnd = false →
      Outcome p sc s start (.ok tree)

lemma outcome_parseFrom (p : Parser) (sc : Scanner) (s : ScanState) (start : String) :
    Outcome p sc s start (p.parseFrom sc s start).result := by
  rw [parseFrom]
  cases hr : (p.attempt sc s start).result with
  | error e =>
    rw [attempt] at hr
    simp only [hr]
    exact .ended hr
  | ok found =>
    rw [attempt] at hr
    simp only [hr]
    cases found with
    | none =>
      cases hp : sc.peek s with
      | error e => exact .unread hr hp
      | ok t => exact .noMatch hr hp
    | some tree =>
      dsimp only
      by_cases hend : p.options.requireEnd = true
      · rw [if_pos hend]
        cases hp : sc.peek tree.stop with
        | error e => exact .restUnread hr hend hp
        | ok t =>
          by_cases ht : t.isEnd
          · simp only [if_pos ht]
            exact .complete hr hend hp ht
          · simp only [if_neg ht]
            exact .trailing hr hend hp ht
      · rw [if_neg hend]
        exact .partly hr (by simpa using hend)

lemma parseFrom_of_end {p : Parser} {sc : Scanner} {s : ScanState} {start : String} {tree : Tree} {t : Token}
    (hr : (p.attempt sc s start).result = .ok (some tree)) (hp : sc.peek tree.stop = .ok t) (ht : t.isEnd) :
    (p.parseFrom sc s start).result = .ok tree := by
  have ho := p.outcome_parseFrom sc s start
  generalize (p.parseFrom sc s start).result = out at ho
  cases ho with
  | ended hr' => cases hr.symm.trans hr'
  | unread hr' _ => cases hr.symm.trans hr'
  | noMatch hr' _ => cases hr.symm.trans hr'
  | restUnread hr' _ hp' =>
    cases hr.symm.trans hr'
    cases hp.symm.trans hp'
  | trailing hr' _ hp' hne =>
    cases hr.symm.trans hr'
    cases hp.symm.trans hp'
    exact absurd ht hne
  | complete hr' _ _ _ =>
    cases hr.symm.trans hr'
    rfl
  | partly hr' _ =>
    cases hr.symm.trans hr'
    rfl

section Success

variable {p : Parser} {sc : Scanner} {s : ScanState} {start : String} {tree : Tree}
  (h : (p.parseFrom sc s start).result = .ok tree)
include h

lemma attempt_of_parseFrom : (p.attempt sc s start).result = .ok (some tree) := by
  have ho := p.outcome_parseFrom sc s start
  rw [h] at ho
  cases ho with
  | complete hr _ _ _ => exact hr
  | partly hr _ => exact hr

lemma extent_of_parseFrom :
    Forest.Fits p.grammar [.rule start] tree.forest ∧ sc.Yields s tree.parts.tokens tree.stop := by
  obtain ⟨hfit, ha⟩ := (attemptRule_extent start s 0).result _ (attempt_of_parseFrom h)
  exact ⟨hfit, ha.yields⟩

lemma end_of_parseFrom (hend : p.options.requireEnd = true) : ∃ t m, sc.next tree.stop = .ok (t, m) ∧ t.isEnd := by
  have ho := p.outcome_parseFrom sc s start
  rw [h] at ho
  cases ho with
  | complete _ _ hp ht =>
    obtain ⟨m, hn⟩ := Scanner.peek_eq_ok.mp hp
    exact ⟨_, m, hn, ht⟩
  | partly _ hpart => cases hend.symm.trans hpart

end Success

end Parser

end GlowSyntax
