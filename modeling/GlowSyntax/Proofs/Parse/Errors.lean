import GlowSyntax.Proofs.Match.Closed
import GlowSyntax.Proofs.Match.Extent
import GlowSyntax.Proofs.Match.TokenList
import GlowSyntax.Proofs.Parse.Outcome
import GlowSyntax.Proofs.Parse.Session
import GlowSyntax.Proofs.Scan.Errors

namespace GlowSyntax

def MatchError.ComesFrom (sc : Scanner) (s : ScanState) : MatchError → Prop
  | .scan e => e.ComesFrom sc s
  | .grammar _ => False
  | .recursionLimit _ _ => True

def ParseError.ComesFrom (sc : Scanner) (s : ScanState) : ParseError → Prop
  | .scan e => e.ComesFrom sc s
  | .grammar _ => False
  | .recursionLimit _ _ | .noMatch _ _ _ | .trailing _ _ _ => True

variable {sc : Scanner} {s : ScanState}

lemma MatchError.ComesFrom.parseError {e : MatchError} (h : e.ComesFrom sc s) :
    (ParseError.ofMatch e).ComesFrom sc s := by
  cases e <;> exact h

lemma attemptRule_comesFrom {g : Grammar} (hv : g.validate = .ok ()) {limit : Nat} {name : String}
    (hname : name ∈ g.names) {depth : Nat} {e : MatchError}
    (h : (attemptRule g limit sc name s depth).result = .error e) : e.ComesFrom sc s := by
  cases e with
  | scan e =>
    obtain ⟨ts, m, hy, hn⟩ := (attemptRule_extent name s depth).error _ h
    exact Scanner.comesFrom_of_leads hy.leads (Scanner.next_comesFrom hn)
  | grammar e => exact (attemptRule_known hv hname s depth).error _ h
  | recursionLimit r n => trivial

lemma parseFrom_comesFrom {p : Parser} {name : String} (hname : name ∈ p.grammar.names) {e : ParseError}
    (h : (p.parseFrom sc s name).result = .error e) : e.ComesFrom sc s := by
  have ho := p.outcome_parseFrom sc s name
  rw [h] at ho
  generalize hout : (.error e : Except ParseError Tree) = out at ho
  cases ho with
  | ended hr =>
    cases hout
    exact (attemptRule_comesFrom p.valid hname hr).parseError
  | unread _ hp =>
    cases hout
    exact Scanner.next_comesFrom (Scanner.peek_eq_error.mp hp)
  | restUnread hr _ hp =>
    cases hout
    obtain ⟨-, ha⟩ := (attemptRule_extent name s 0).result _ hr
    exact Scanner.comesFrom_of_leads ha.yields.leads (Scanner.next_comesFrom (Scanner.peek_eq_error.mp hp))
  | noMatch _ _ | trailing _ _ _ _ =>
    cases hout
    trivial
  | _ => cases hout

structure Checked (sc : Scanner) (p : Parser) (name : String) (s : ScanState) : Prop where
  next : ∀ e, sc.next s = .error e → e.ComesFrom sc s
  peek : ∀ e, sc.peek s = .error e → e.ComesFrom sc s
  tokenize : ∀ e, sc.tokenize s = .error e → e.ComesFrom sc s
  attempt : ∀ limit depth e, (attemptRule p.grammar limit sc name s depth).result = .error e → e.ComesFrom sc s
  parse : ∀ options e, ((p.withOptions options).parseFrom sc s name).result = .error e → e.ComesFrom sc s
  placed : ∀ c seen, Session sc c seen → c.state = s → (sc.rest? s).isSome

/-- Whatever has been loaded into a scanner, it raises no error about its lexicon, and none about a grammar of which a
parser was made, if the start rule is in it. In a session it does not come off the text. -/
theorem configuration_checked (sc : Scanner) (sources : List SourceFile) {p : Parser} {name : String}
    (hname : name ∈ p.grammar.names) (s : ScanState) : Checked (sources.foldl Scanner.load sc) p name s where
  next _ := Scanner.next_comesFrom
  peek _ h := Scanner.next_comesFrom (Scanner.peek_eq_error.mp h)
  tokenize _ := Scanner.tokenize_comesFrom
  attempt _ _ _ := attemptRule_comesFrom p.valid hname
  parse options _ := parseFrom_comesFrom (show name ∈ (p.withOptions options).grammar.names from hname)
  placed c seen h hs := by
    subst hs
    exact (h.leads.2 _ List.mem_cons_self).rest? Scanner.rest?_start

def reloaded : Scanner := [SourceFile.ofText "second" "x = é"].foldl Scanner.load Scanner.lowerCase

theorem configuration_checked_reloaded :
    "program" ∈ Parser.glow.grammar.names ∧ ∃ c seen e e', Session reloaded c seen ∧ c.state.offset = 1 ∧
      reloaded.tokenize c.state = .error e ∧ e.ComesFrom reloaded c.state ∧
      (Parser.glow.parseFrom reloaded c.state "program").result = .error e' ∧ e'.ComesFrom reloaded c.state := by
  have hname : "program" ∈ Parser.glow.grammar.names := by decide
  have hsession := Session.perform .next (.start : Session reloaded _ _) (by simp)
  have hs : (Operation.effect (.start reloaded) .next).cursor.state = ⟨1, 1, 2, .code⟩ := by decide +kernel
  have htokens : (reloaded.tokenize ⟨1, 1, 2, .code⟩).toOption = none := by decide +kernel
  have hparse : (Parser.glow.parseFrom reloaded ⟨1, 1, 2, .code⟩ "program").result.toOption = none := by
    decide +kernel
  obtain ⟨e, he⟩ := error_of_toOption htokens
  obtain ⟨e', he'⟩ := error_of_toOption hparse
  have hchecked := configuration_checked Scanner.lowerCase [SourceFile.ofText "second" "x = é"] hname ⟨1, 1, 2, .code⟩
  refine ⟨hname, _, _, e, e', hsession, ?_⟩
  rw [hs]
  exact ⟨rfl, he, hchecked.tokenize e he, he', hchecked.parse .standard e' he'⟩

end GlowSyntax
