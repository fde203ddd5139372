import GlowSyntax.Proofs.Glow.Language
import GlowSyntax.Proofs.Match.Spent

/-!
Ordered choice takes every sentence of Glow, with the tokens that can stand behind it: the alternatives
before the right one fail, and those for the end of the text make up for rules that do not match there.
No alternative is dropped behind an operand, so the attempts for a sentence are linear in its length. Those before
the right one fail at their first token or, where parentheses may stand, after one attempt. Only the last declaration
is matched twice, at first with the rest of a program behind it.
-/

namespace GlowSyntax

def Phrase.rule : Phrase → String
  | chars => "chars"
  | factor => "factor"
  | operations => "expr_tail"
  | expr => "expr"
  | declaration => "declaration"
  | program => "program"

def Phrase.EndsAt (tokens : Nat → Option Token) (i : Nat) : Phrase → Prop
  | chars => kindAt tokens i = some .quote
  | operations | expr => ∃ k, kindAt tokens i = some k ∧ ¬ k.IsOperator ∧ k ≠ .endOfFile
  | program => kindAt tokens i = some .endOfFile
  | factor | declaration => True

/-- The most attempts that the rule of a phrase makes for a sentence of so many tokens, itself included. -/
def Phrase.attempts (n : Nat) : Phrase → Nat
  | chars => n + 1
  | factor => 3 * n
  | operations => 3 * n + 1
  | expr => 3 * n + 2
  | declaration => 3 * n - 1
  | program => 6 * n

def KindsAt (tokens : Nat → Option Token) : Nat → List Kind → Prop
  | _, [] => True
  | i, k :: w => kindAt tokens i = some k ∧ KindsAt tokens (i + 1) w

variable {tokens : Nat → Option Token} {i j m n n' : Nat} {k : Kind} {u v w : List Kind}

lemma kindsAt_append : KindsAt tokens i (u ++ v) ↔ KindsAt tokens i u ∧ KindsAt tokens (i + u.length) v := by
  induction u generalizing i with
  | nil => simp [KindsAt]
  | cons k u ih =>
    rw [List.cons_append, KindsAt, KindsAt, ih, and_assoc, List.length_cons, Nat.add_right_comm, Nat.add_assoc i]

lemma bars_all {before : List Alternative} (hk : kindAt tokens i = some k)
    (hb : before.all (Alternative.bars k) = true) : ∀ b ∈ before, Reads .glow tokens b i none :=
  fun b hmem => reads_none_of_bars hk (List.all_eq_true.mp hb b hmem)

lemma Kind.IsOperator.ne_end (h : k.IsOperator) : k ≠ .endOfFile := by
  rcases h with rfl | rfl | rfl | rfl <;> decide

lemma takes_expr (hf : Takes .glow tokens [.rule "factor"] i m)
    (ht : Takes .glow tokens [.rule "expr_tail"] m j) : Takes .glow tokens [.rule "expr"] i j := by
  obtain ⟨k, hk, he⟩ := hf.kindAt_ne_end
  exact .choose [] rfl hk he rfl (by simp) (.rule hf (.rule ht .nil))

lemma operator_alternatives (hop : k.IsOperator) : ∃ r before after, Grammar.glow.find? "expr_tail" = some r ∧
    before.all (Alternative.bars k) = true ∧ (r.alternatives = before ++ (Grammar.chained k ++ after) ∨
      r.alternatives = before ++ Grammar.closing k :: after) := by
  rcases hop with rfl | rfl | rfl | rfl
  · exact ⟨_, [], _, rfl, rfl, Or.inl rfl⟩
  · exact ⟨_, Grammar.chained .times, _, rfl, rfl, Or.inl rfl⟩
  · exact ⟨_, Grammar.chained .times ++ Grammar.chained .slash, _, rfl, rfl, Or.inr rfl⟩
  · exact ⟨_, Grammar.chained .times ++ Grammar.chained .slash ++ [Grammar.closing .plus], _, rfl, rfl, Or.inr rfl⟩

lemma takes_operations (hop : k.IsOperator) (hk : kindAt tokens i = some k)
    (hf : Takes .glow tokens [.rule "factor"] (i + 1) m) (ht : Takes .glow tokens [.rule "expr_tail"] m j) :
    Takes .glow tokens [.rule "expr_tail"] i j := by
  obtain ⟨r, before, after, hr, hb, has | has⟩ := operator_alternatives hop
  · exact .choose before hr hk hop.ne_end has (bars_all hk hb) (.token hk (.rule hf (.rule ht .nil)))
  · exact .choose before hr hk hop.ne_end has (bars_all hk hb) (.token hk (.rule (takes_expr hf ht) .nil))

def operatorAlternatives : List Alternative :=
  Grammar.chained .times ++ Grammar.chained .slash ++ [Grammar.closing .plus, Grammar.closing .minus]

lemma operators_barred (hop : ¬ k.IsOperator) : operatorAlternatives.all (Alternative.bars k) = true := by
  revert hop
  cases k <;> simp [Kind.IsOperator] <;> decide

lemma takes_no_operations (hop : ¬ k.IsOperator) (he : k ≠ .endOfFile) (hk : kindAt tokens i = some k) :
    Takes .glow tokens [.rule "expr_tail"] i i :=
  .choose operatorAlternatives rfl hk he rfl (bars_all hk (operators_barred hop)) .nil

lemma paren_barred (hp : k ≠ .parenOpen) :
    Alternative.bars k [.token .parenOpen, .ruleAs "expr" "body", .token .parenClose] = true := by
  simpa [Alternative.bars, Item.token] using hp.symm

lemma paren_refused (hk : kindAt tokens i = some k) (he : k ≠ .endOfFile) (hp : k ≠ .parenOpen) :
    Reads .glow tokens [.rule "paren"] i none :=
  reads_none_of_refused rfl hk he (bars_all hk (by simpa using paren_barred hp))

lemma takes_chars (hc : k.IsChar) (hk : kindAt tokens i = some k)
    (hr : Takes .glow tokens [.rule "chars"] (i + 1) j) : Takes .glow tokens [.rule "chars"] i j := by
  rcases hc with rfl | rfl
  · exact .choose [] rfl hk (by decide) rfl (bars_all hk rfl) (.token hk (.rule hr .nil))
  · exact .choose [_] rfl hk (by decide) rfl (bars_all hk rfl) (.token hk (.rule hr .nil))

lemma takes_last_declaration (hd : Takes .glow tokens [.rule "declaration"] i j)
    (he : kindAt tokens j = some .endOfFile) : Takes .glow tokens [.rule "program"] i j := by
  obtain ⟨k, hk, hne⟩ := hd.kindAt_ne_end
  refine .choose [[.ruleAs "declaration" "first", .ruleAs "program" "rest"]] rfl hk hne rfl ?_ (.rule hd .nil)
  simp only [List.mem_singleton, forall_eq]
  -- The rest of the program is refused at the end of the text, so the second alternative is taken.
  exact hd.rule_none (reads_none_of_end rfl he)

lemma takes_program (hd : Takes .glow tokens [.rule "declaration"] i m)
    (hp : Takes .glow tokens [.rule "program"] m j) : Takes .glow tokens [.rule "program"] i j := by
  obtain ⟨k, hk, hne⟩ := hd.kindAt_ne_end
  exact .choose [] rfl hk hne rfl (by simp) (.rule hd (.rule hp .nil))

lemma costs_expr (hf : CostsRule .glow tokens "factor" i m n) (ht : CostsRule .glow tokens "expr_tail" m j n') :
    CostsRule .glow tokens "expr" i j (n + n' + 1) := by
  obtain ⟨k, hk, he⟩ := hf.takes.kindAt_ne_end
  exact .choose [] rfl hk he rfl rfl (.rule hf (.last ht))

lemma costs_operations (hop : k.IsOperator) (hk : kindAt tokens i = some k)
    (hf : CostsRule .glow tokens "factor" (i + 1) m n) (ht : CostsRule .glow tokens "expr_tail" m j n') :
    CostsRule .glow tokens "expr_tail" i j (n + n' + 2) := by
  obtain ⟨r, before, after, hr, hb, has | has⟩ := operator_alternatives hop
  · have htail : CostsRule .glow tokens "expr_tail" i j (n + n' + 1) :=
      .choose before hr hk hop.ne_end has hb (.token hk (.rule hf (.last ht)))
    exact htail.mono (Nat.le_succ _)
  · exact .choose before hr hk hop.ne_end has hb (.token hk (.last (costs_expr hf ht)))

lemma costs_no_operations (hop : ¬ k.IsOperator) (he : k ≠ .endOfFile) (hk : kindAt tokens i = some k) :
    CostsRule .glow tokens "expr_tail" i i 1 :=
  .choose operatorAlternatives rfl hk he rfl (operators_barred hop) .nil

lemma costs_atomic (hk : kindAt tokens i = some k) (he : k ≠ .endOfFile) (hp : k ≠ .parenOpen)
    (ha : CostsRule .glow tokens "atomic" i j n) : CostsRule .glow tokens "factor" i j (n + 2) := by
  -- Parentheses are tried first, and refused after the one attempt for them.
  have hrefused := paren_refused hk he hp
  have hparen : SpendsRule .glow tokens "paren" i 1 :=
    .choose (n := 0) rfl (.skip (.barred hk (paren_barred hp)) .nil)
  constructor
  · refine .choose [[.ruleAs "paren" "body"]] rfl hk he rfl ?_ (.rule ha.takes .nil)
    simp only [List.mem_singleton, forall_eq]
    exact hrefused.cons_none
  · have hfactor : SpendsRule .glow tokens "factor" i (1 + n + 1) :=
      .choose rfl (.skip (.refused hrefused hparen) (.take (.last ha)))
    rwa [Nat.add_comm 1] at hfactor

lemma costs_name (hk : kindAt tokens i = some .identifier) : CostsRule .glow tokens "atomic" i (i + 1) 1 :=
  .choose [] rfl hk (by decide) rfl rfl (.token hk .nil)

lemma costs_integer (hk : kindAt tokens i = some .integer) : CostsRule .glow tokens "atomic" i (i + 1) 1 :=
  .choose [_] rfl hk (by decide) rfl rfl (.token hk .nil)

lemma costs_chars (hc : k.IsChar) (hk : kindAt tokens i = some k)
    (hr : CostsRule .glow tokens "chars" (i + 1) j n) : CostsRule .glow tokens "chars" i j (n + 1) := by
  rcases hc with rfl | rfl
  · exact .choose [] rfl hk (by decide) rfl rfl (.token hk (.last hr))
  · exact .choose [_] rfl hk (by decide) rfl rfl (.token hk (.last hr))

lemma costs_string (hk : kindAt tokens i = some .quote) (hc : CostsRule .glow tokens "chars" (i + 1) m n)
    (hq : kindAt tokens m = some .quote) : CostsRule .glow tokens "atomic" i (m + 1) (n + 2) := by
  have hstring : CostsRule .glow tokens "string" i (m + 1) (n + 1) :=
    .choose [] rfl hk (by decide) rfl rfl (.token hk (.rule hc (.token hq .nil)))
  exact .choose [_, _] rfl hk (by decide) rfl rfl (.last hstring)

lemma costs_paren (hk : kindAt tokens i = some .parenOpen) (he : CostsRule .glow tokens "expr" (i + 1) m n)
    (hp : kindAt tokens m = some .parenClose) : CostsRule .glow tokens "factor" i (m + 1) (n + 2) := by
  have hparen : CostsRule .glow tokens "paren" i (m + 1) (n + 1) :=
    .choose [] rfl hk (by decide) rfl rfl (.token hk (.rule he (.token hp .nil)))
  exact .choose [] rfl hk (by decide) rfl rfl (.last hparen)

lemma costs_declaration (hb : k.IsBinder) (hk : kindAt tokens i = some k)
    (hr : Costs .glow tokens (Grammar.binding k).tail (i + 1) j n) :
    CostsRule .glow tokens "declaration" i j (n + 1) := by
  rcases hb with rfl | rfl
  · exact .choose [] rfl hk (by decide) rfl rfl (.token hk hr)
  · exact .choose [Grammar.binding .kwVar] rfl hk (by decide) rfl rfl (.token hk hr)

lemma costs_last_declaration (hd : CostsRule .glow tokens "declaration" i j n)
    (he : kindAt tokens j = some .endOfFile) : CostsRule .glow tokens "program" i j (2 * n + 1) := by
  refine ⟨takes_last_declaration hd.takes he, .choose rfl ?_⟩
  rw [Nat.two_mul]
  -- The rest of the program is refused without an attempt, but the declaration has been matched for it.
  have hrest : SpendsItems .glow tokens [.ruleAs "program" "rest"] j 0 :=
    .refused (reads_none_of_end rfl he) (.ended he)
  exact .skip (.rule hd.takes hd.spends hrest) (.take (.last hd))

lemma costs_program (hd : CostsRule .glow tokens "declaration" i m n)
    (hp : CostsRule .glow tokens "program" m j n') : CostsRule .glow tokens "program" i j (n + n' + 1) := by
  obtain ⟨k, hk, hne⟩ := hd.takes.kindAt_ne_end
  exact .choose [] rfl hk hne rfl rfl (.rule hd (.last hp))

lemma Sentence.declaration_pos (h : Sentence .declaration w) : 0 < w.length := by
  cases h
  exact Nat.succ_pos _

lemma costs_sentence {p : Phrase} (h : Sentence p w) (hw : KindsAt tokens i w) (hj : j = i + w.length)
    (he : p.EndsAt tokens j) : CostsRule .glow tokens p.rule i j (p.attempts w.length) := by
  induction h generalizing i j with
  | noChars =>
    obtain rfl : j = i := hj
    have hq : kindAt tokens j = some .quote := he
    exact .choose [_, _] rfl hq (by decide) rfl rfl .nil
  | moreChars hc _ ih =>
    obtain ⟨hk, hw⟩ := hw
    exact costs_chars hc hk (ih hw (by simp at hj; omega) he)
  | name =>
    obtain rfl := hj
    exact costs_atomic hw.1 (by decide) (by decide) (costs_name hw.1)
  | integer =>
    obtain rfl := hj
    exact costs_atomic hw.1 (by decide) (by decide) (costs_integer hw.1)
  | @string w _ ih =>
    obtain ⟨hk, hw⟩ := hw
    obtain ⟨hw, hq, -⟩ := kindsAt_append.mp hw
    obtain rfl : j = i + 1 + w.length + 1 := by simp at hj; omega
    have hstring := costs_atomic hk (by decide) (by decide) (costs_string hk (ih hw rfl hq) hq)
    exact hstring.mono (by simp [Phrase.attempts]; omega)
  | @paren w _ ih =>
    obtain ⟨hk, hw⟩ := hw
    obtain ⟨hw, hp, -⟩ := kindsAt_append.mp hw
    obtain rfl : j = i + 1 + w.length + 1 := by simp at hj; omega
    have hparen := costs_paren hk (ih hw rfl ⟨_, hp, by simp [Kind.IsOperator], by decide⟩) hp
    exact hparen.mono (by simp [Phrase.attempts]; omega)
  | noOperations =>
    obtain rfl : j = i := hj
    obtain ⟨k, hk, hop, hend⟩ := he
    exact costs_no_operations hop hend hk
  | moreOperations hop _ _ ihu ihv =>
    obtain ⟨hk, hw⟩ := hw
    obtain ⟨hu, hv⟩ := kindsAt_append.mp hw
    have hops := costs_operations hop hk (ihu hu rfl trivial) (ihv hv (by simp at hj; omega) he)
    exact hops.mono (by simp [Phrase.attempts]; omega)
  | expr _ _ ihu ihv =>
    obtain ⟨hu, hv⟩ := kindsAt_append.mp hw
    have hexpr := costs_expr (ihu hu rfl trivial) (ihv hv (by simp at hj; omega) he)
    exact hexpr.mono (by simp [Phrase.attempts]; omega)
  | @declaration k w hb _ ih =>
    obtain ⟨hk, hname, hassign, hw⟩ := hw
    obtain ⟨hw, hs, -⟩ := kindsAt_append.mp hw
    obtain rfl : j = i + 1 + 1 + 1 + w.length + 1 := by simp at hj; omega
    have hexpr := ih hw rfl ⟨_, hs, by simp [Kind.IsOperator], by decide⟩
    have hdecl := costs_declaration hb hk (.token hname (.token hassign (.rule hexpr (.token hs .nil))))
    exact hdecl.mono (by simp [Phrase.attempts]; omega)
  | @lastDeclaration w hs ih =>
    have hpos := hs.declaration_pos
    exact (costs_last_declaration (ih hw hj trivial) he).mono (by simp [Phrase.attempts]; omega)
  | @moreDeclarations u v hs _ ihu ihv =>
    obtain ⟨hu, hv⟩ := kindsAt_append.mp hw
    have hprogram := costs_program (ihu hu rfl trivial) (ihv hv (by simp at hj; omega) he)
    have hpos := hs.declaration_pos
    exact hprogram.mono (by simp [Phrase.attempts]; omega)

lemma takes_sentence {p : Phrase} (h : Sentence p w) (hw : KindsAt tokens i w) (hj : j = i + w.length)
    (he : p.EndsAt tokens j) : Takes .glow tokens [.rule p.rule] i j :=
  (costs_sentence h hw hj he).takes

end GlowSyntax
