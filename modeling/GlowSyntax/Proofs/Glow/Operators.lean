import GlowSyntax.Proofs.Glow.Cut
import GlowSyntax.Proofs.Match.Answers

/-!
The operators of an expression and the tree that is made of them: a product or a quotient has one factor and hands
on what follows, a sum or a difference has all that follows. Where the text ends no tail is tried, so it is there that
tails are missing; before any other token the last tail is empty.
-/

namespace GlowSyntax

/-- Operators and the factors behind them, as they hang in the tail of an expression or of another tail. -/
inductive Hangs (sc : Scanner) : Tree → List (Token × List Token) → Prop
  | ended {t e m} : t.hasCapture "tail" = false → sc.next t.stop = .ok (e, m) → e.isEnd → Hangs sc t []
  | empty {t x} : t.subtree "tail" = .ok x → x.rule.name = "expr_tail" → x.captures = [] → Hangs sc t []
  | product {t x o f ops} : t.subtree "tail" = .ok x → x.rule.name = "expr_tail" → x.token "op" = .ok o →
      o.kind = .times ∨ o.kind = .slash → x.subtree "rhs" = .ok f → f.rule.name = "factor" → Hangs sc x ops →
      Hangs sc t ((o, f.parts.tokens) :: ops)
  | sum {t x o e f ops} : t.subtree "tail" = .ok x → x.rule.name = "expr_tail" → x.token "op" = .ok o →
      o.kind = .plus ∨ o.kind = .minus → x.subtree "rhs" = .ok e → e.rule.name = "expr" →
      e.parts.tokens = f.parts.tokens ++ joined ops → e.subtree "lhs" = .ok f → f.rule.name = "factor" →
      Hangs sc e ops → Hangs sc t ((o, f.parts.tokens) :: ops)

def Finished (sc : Scanner) (s : ScanState) : Prop :=
  ∀ o m, sc.next s = .ok (o, m) → o.kind.IsOperator → ∀ limit depth f,
    (attemptRule .glow limit sc "factor" m depth).result ≠ .ok (some f)

structure Tree.FollowsOperators (sc : Scanner) (t : Tree) : Prop where
  lhs : ∃ f, t.subtree "lhs" = .ok f ∧ f.rule.name = "factor" ∧ f.parts.tokens = (cutAtOperators 0 t.parts.tokens).1
  tail : Hangs sc t (cutAtOperators 0 t.parts.tokens).2
  finished : Finished sc t.stop

open Answers

variable {sc : Scanner} {s s' : ScanState} {d : Nat} {node : Node} {parts : Forest} {a : Alternative}
  {label label' : Option String} {t : Token} {ops : List (Token × List Token)}

section Glow

variable {name : String}

lemma choice_name (h : Choice .glow sc name s d node parts a) : node.rule.name = name :=
  (Grammar.find?_eq_some h.rule_eq).2

lemma choice_factor (h : Choice .glow sc "factor" s d node parts a) : IsFactor parts.tokens := by
  have hfits : Forest.Fits .glow [.rule "factor"] (.tree none node parts .nil) := h.fits
  simpa [IsFactor, Forest.tokens, phraseOf] using hfits.derives.sentence

lemma not_operator_of_end (ht : t.isEnd) : ¬ t.kind.IsOperator := by
  have hk : t.kind = .endOfFile := by simpa [Token.isEnd] using ht
  rw [hk]
  decide

lemma finished_of_end (hn : sc.next s = .ok (t, s')) (ht : t.isEnd) : Finished sc s := by
  intro o m hm ho
  rw [hn] at hm
  cases hm
  exact absurd ho (not_operator_of_end ht)

lemma factor_of_none (h : Answers .glow sc [⟨.rule "factor", label⟩] s d none) (limit depth : Nat) (f : Tree) :
    (attemptRule .glow limit sc "factor" s depth).result ≠ .ok (some f) := by
  intro hr
  obtain ⟨b, hchoice⟩ := (attemptRule_answers "factor" s depth).result _ hr
  exact hchoice.not_none h

lemma factor_none_of_expr (h : Answers .glow sc [⟨.rule "expr", label⟩] s d none) :
    Answers .glow sc [⟨.rule "factor", some "lhs"⟩] s d none := by
  obtain ⟨-, ⟨t, s', hn, ht⟩ | ⟨r, hf, hnone⟩⟩ | ⟨_, _, _, o, _, ho, heq⟩ := h.rule_inv
  · exact .ended hn ht
  · obtain rfl := Option.some.inj (hf.symm.trans (rfl : Grammar.glow.find? "expr" = some _))
    exact hnone [.ruleAs "factor" "lhs"] (by simp)
  · rw [ho.nil_inv] at heq
    cases heq

lemma end_of_tail_none (h : Answers .glow sc [⟨.rule "expr_tail", label⟩] s d none) :
    ∃ t s', sc.next s = .ok (t, s') ∧ t.isEnd := by
  obtain ⟨-, hend | ⟨r, hf, hnone⟩⟩ | ⟨_, _, _, o, _, ho, heq⟩ := h.rule_inv
  · exact hend
  · obtain rfl := Option.some.inj (hf.symm.trans (rfl : Grammar.glow.find? "expr_tail" = some _))
    cases (hnone [] (by simp)).nil_inv
  · rw [ho.nil_inv] at heq
    cases heq

lemma end_behind_factor (hf : Choice .glow sc "factor" s d node parts a)
    (h : Answers .glow sc [⟨.rule "factor", label⟩, ⟨.rule "expr_tail", label'⟩] s d none) :
    ∃ t s', sc.next node.stop = .ok (t, s') ∧ t.isEnd := by
  obtain ⟨-, hnone⟩ | ⟨node', parts', b, o, hchoice, ho, heq⟩ := h.rule_inv
  · have hrefused : Answers .glow sc [⟨.rule "factor", label⟩] s d none := by
      rcases hnone with ⟨t, s', hn, ht⟩ | ⟨r, hr, hall⟩
      · exact .ended hn ht
      · exact .refused hr hall
    exact (hf.not_none hrefused).elim
  · obtain rfl := Option.map_eq_none_iff.mp heq.symm
    rw [hchoice.stop_eq hf] at ho
    exact end_of_tail_none ho

end Glow

structure TailOf (sc : Scanner) (x : Tree) (ops : List (Token × List Token)) : Prop where
  tokens_eq : x.parts.tokens = joined ops
  operations : Operations ops
  hangs : ∀ t, t.subtree "tail" = .ok x → Hangs sc t ops
  finished : Finished sc x.stop

structure ExpressionOf (sc : Scanner) (e f : Tree) (ops : List (Token × List Token)) : Prop where
  lhs : e.subtree "lhs" = .ok f
  factor : f.rule.name = "factor" ∧ IsFactor f.parts.tokens
  tokens_eq : e.parts.tokens = f.parts.tokens ++ joined ops
  operations : Operations ops
  hangs : Hangs sc e ops
  finished : Finished sc e.stop

section Step

variable (ihtail : ∀ x s d a, sizeOf x.parts < sizeOf parts → Choice .glow sc "expr_tail" s d x.node x.parts a →
    ∃ ops, TailOf sc x ops)
  (ihexpr : ∀ e s d a, sizeOf e.parts < sizeOf parts → Choice .glow sc "expr" s d e.node e.parts a →
    ∃ f ops, ExpressionOf sc e f ops)

include ihtail in
lemma expression_step (h : Choice .glow sc "expr" s d node parts a) : ∃ f ops, ExpressionOf sc ⟨node, parts⟩ f ops := by
  have hrule : node.rule = ⟨"expr", [[.ruleAs "factor" "lhs", .ruleAs "expr_tail" "tail"], [.ruleAs "factor" "lhs"]]⟩ :=
    Option.some.inj (h.rule_eq.symm.trans rfl)
  have halternative := h.alternative_eq
  have hearlier := h.earlier
  rw [hrule] at halternative hearlier
  rcases hi : node.alternative with _ | _ | i <;> rw [hi] at halternative hearlier
  · obtain rfl := Option.some.inj halternative
    obtain ⟨fnode, fparts, _, _, hf, hrest, rfl⟩ := h.answers.rule_some
    obtain ⟨xnode, xparts, _, hx, hstop, rfl⟩ := hrest.rule_last
    obtain ⟨ops, hops⟩ := ihtail ⟨xnode, xparts⟩ _ _ _ (by simp; omega) hx
    refine ⟨⟨fnode, fparts⟩, ops, rfl, ⟨choice_name hf, choice_factor hf⟩, ?_, hops.operations, hops.hangs _ rfl, ?_⟩
    · rw [← hops.tokens_eq]
      simp [Forest.tokens]
    · rw [Tree.stop, hstop]
      exact hops.finished
  · obtain rfl := Option.some.inj halternative
    obtain ⟨fnode, fparts, _, hf, hstop, rfl⟩ := h.answers.rule_last
    obtain ⟨t, s', hn, ht⟩ := end_behind_factor hf (hearlier 0 (by omega) _ rfl)
    rw [← hstop] at hn
    refine ⟨⟨fnode, fparts⟩, [], rfl, ⟨choice_name hf, choice_factor hf⟩, ?_, by simp [Operations],
      .ended rfl hn ht, finished_of_end hn ht⟩
    simp [Forest.tokens]
  · cases halternative

variable {k : Kind} {e : Nat}

include ihtail in
lemma product_step (hname : node.rule.name = "expr_tail") (hk : k = .times ∨ k = .slash)
    (h : Answers .glow sc [.tokenAs k "op", .ruleAs "factor" "rhs", .ruleAs "expr_tail" "tail"] s d
      (some (parts, node.stop, e))) : ∃ ops, TailOf sc ⟨node, parts⟩ ops := by
  obtain ⟨o, m, _, -, rfl, hfactor, rfl⟩ := h.token_some
  obtain ⟨fnode, fparts, _, _, hf, hrest, rfl⟩ := hfactor.rule_some
  obtain ⟨xnode, xparts, _, hx, hstop, rfl⟩ := hrest.rule_last
  obtain ⟨ops, hops⟩ := ihtail ⟨xnode, xparts⟩ _ _ _ (by simp; omega) hx
  have hoperator : o.kind.IsOperator := hk.elim Or.inl (Or.inr ∘ Or.inl)
  refine ⟨(o, fparts.tokens) :: ops, ?_, hops.operations.cons hoperator (choice_factor hf), ?_, ?_⟩
  · rw [joined_cons, ← hops.tokens_eq]
    simp [Forest.tokens]
  · intro t ht
    exact .product ht hname rfl hk (f := ⟨fnode, fparts⟩) rfl (choice_name hf) (hops.hangs _ rfl)
  · rw [Tree.stop, hstop]
    exact hops.finished

lemma last_product_step (hname : node.rule.name = "expr_tail") (hk : k = .times ∨ k = .slash)
    (h : Answers .glow sc [.tokenAs k "op", .ruleAs "factor" "rhs"] s d (some (parts, node.stop, e)))
    (hearlier : Answers .glow sc [.tokenAs k "op", .ruleAs "factor" "rhs", .ruleAs "expr_tail" "tail"] s d none) :
    ∃ ops, TailOf sc ⟨node, parts⟩ ops := by
  obtain ⟨o, m, _, hm, rfl, hfactor, rfl⟩ := h.token_some
  obtain ⟨fnode, fparts, _, hf, hstop, rfl⟩ := hfactor.rule_last
  obtain ⟨t, s', hn, ht⟩ := end_behind_factor hf (hearlier.token_none hm rfl)
  rw [← hstop] at hn
  have hoperator : o.kind.IsOperator := hk.elim Or.inl (Or.inr ∘ Or.inl)
  have hnil : Operations [] := by simp [Operations]
  refine ⟨[(o, fparts.tokens)], ?_, hnil.cons hoperator (choice_factor hf), ?_, finished_of_end hn ht⟩
  · simp [Forest.tokens]
  · intro u hu
    exact .product hu hname rfl hk (f := ⟨fnode, fparts⟩) rfl (choice_name hf) (.ended rfl hn ht)

include ihexpr in
lemma sum_step (hname : node.rule.name = "expr_tail") (hk : k = .plus ∨ k = .minus)
    (h : Answers .glow sc (Grammar.closing k) s d (some (parts, node.stop, e))) :
    ∃ ops, TailOf sc ⟨node, parts⟩ ops := by
  obtain ⟨o, m, _, -, rfl, hexpr, rfl⟩ := h.token_some
  obtain ⟨enode, eparts, _, he, hstop, rfl⟩ := hexpr.rule_last
  obtain ⟨f, ops, hops⟩ := ihexpr ⟨enode, eparts⟩ _ _ _ (by simp; omega) he
  have hoperator : o.kind.IsOperator := Or.inr (Or.inr hk)
  refine ⟨(o, f.parts.tokens) :: ops, ?_, hops.operations.cons hoperator hops.factor.2, ?_, ?_⟩
  · rw [joined_cons, ← hops.tokens_eq]
    simp [Forest.tokens]
  · intro t ht
    exact .sum ht hname rfl hk rfl (choice_name he) hops.tokens_eq hops.lhs hops.factor.1 hops.hangs
  · rw [Tree.stop, hstop]
    exact hops.finished

lemma finished_of_empty (depth : Nat) (hproduct : ∀ k, k = .times ∨ k = .slash →
      Answers .glow sc [.tokenAs k "op", .ruleAs "factor" "rhs"] s depth none)
    (hsum : ∀ k, k = .plus ∨ k = .minus → Answers .glow sc (Grammar.closing k) s depth none) : Finished sc s := by
  intro o m hm ho
  have hfactor : Answers .glow sc [.ruleAs "factor" "rhs"] m (depth + 1) none ∨
      Answers .glow sc [.ruleAs "expr" "rhs"] m (depth + 1) none := by
    rcases ho with hk | hk | hk
    · exact Or.inl ((hproduct _ (Or.inl hk)).token_none hm rfl)
    · exact Or.inl ((hproduct _ (Or.inr hk)).token_none hm rfl)
    · exact Or.inr ((hsum _ hk).token_none hm rfl)
  rcases hfactor with hnone | hnone
  · exact factor_of_none hnone
  · exact factor_of_none (factor_none_of_expr hnone)

include ihtail ihexpr in
lemma tail_step (h : Choice .glow sc "expr_tail" s d node parts a) : ∃ ops, TailOf sc ⟨node, parts⟩ ops := by
  have hrule : node.rule = ⟨"expr_tail", Grammar.chained .times ++ Grammar.chained .slash ++
      [Grammar.closing .plus, Grammar.closing .minus, []]⟩ := Option.some.inj (h.rule_eq.symm.trans rfl)
  have halternative := h.alternative_eq
  have hearlier := h.earlier
  have hanswers := h.answers
  rw [hrule] at halternative hearlier
  -- One case for each alternative, in the order of the rule.
  rcases hi : node.alternative with _ | _ | _ | _ | _ | _ | _ | i <;> rw [hi] at halternative hearlier
  · obtain rfl := Option.some.inj halternative
    exact product_step ihtail (choice_name h) (Or.inl rfl) hanswers
  · obtain rfl := Option.some.inj halternative
    exact last_product_step (choice_name h) (Or.inl rfl) hanswers (hearlier 0 (by omega) _ rfl)
  · obtain rfl := Option.some.inj halternative
    exact product_step ihtail (choice_name h) (Or.inr rfl) hanswers
  · obtain rfl := Option.some.inj halternative
    exact last_product_step (choice_name h) (Or.inr rfl) hanswers (hearlier 2 (by omega) _ rfl)
  · obtain rfl := Option.some.inj halternative
    exact sum_step ihexpr (choice_name h) (Or.inl rfl) hanswers
  · obtain rfl := Option.some.inj halternative
    exact sum_step ihexpr (choice_name h) (Or.inr rfl) hanswers
  · obtain rfl := Option.some.inj halternative
    cases hanswers.nil_inv
    refine ⟨[], rfl, by simp [Operations], fun t ht => .empty ht (choice_name h) rfl, ?_⟩
    apply finished_of_empty node.depth
    · rintro k (rfl | rfl)
      · exact hearlier 1 (by omega) _ rfl
      · exact hearlier 3 (by omega) _ rfl
    · rintro k (rfl | rfl)
      · exact hearlier 4 (by omega) _ rfl
      · exact hearlier 5 (by omega) _ rfl
  · cases halternative

end Step

lemma made_of_operators (n : Nat) :
    (∀ x s d a, sizeOf x.parts < n → Choice .glow sc "expr_tail" s d x.node x.parts a → ∃ ops, TailOf sc x ops) ∧
    ∀ e s d a, sizeOf e.parts < n → Choice .glow sc "expr" s d e.node e.parts a → ∃ f ops, ExpressionOf sc e f ops := by
  -- By the size of the parts, for both at once: a tail is part of an expression and an expression part of a tail.
  induction n with
  | zero => exact ⟨fun _ _ _ _ h => absurd h (Nat.not_lt_zero _), fun _ _ _ _ h => absurd h (Nat.not_lt_zero _)⟩
  | succ n ih =>
    obtain ⟨ihtail, ihexpr⟩ := ih
    constructor
    · intro x s d a hsize h
      exact tail_step (fun y s d a hy => ihtail y s d a (by omega)) (fun e s d a he => ihexpr e s d a (by omega)) h
    · intro e s d a hsize h
      exact expression_step (fun x s d a hx => ihtail x s d a (by omega)) h

lemma Answers.Choice.followsOperators {e : Tree} (h : Choice .glow sc "expr" s d e.node e.parts a) :
    e.FollowsOperators sc := by
  obtain ⟨f, ops, he⟩ := (made_of_operators (sizeOf e.parts + 1)).2 e s d a (Nat.lt_succ_self _) h
  have hcut : cutAtOperators 0 e.parts.tokens = (f.parts.tokens, ops) := by
    rw [he.tokens_eq, cut_expression he.factor.2 he.operations]
  refine ⟨⟨f, he.lhs, he.factor.1, ?_⟩, ?_, he.finished⟩
  · rw [hcut]
  · rw [hcut]
    exact he.hangs

theorem expression_followsOperators {limit depth : Nat} {source : SourceFile} {s : ScanState} {tree : Tree}
    (h : (attemptRule .glow limit (.glow source) "expr" s depth).result = .ok (some tree)) :
    tree.rule.name = "expr" ∧ (Scanner.glow source).Yields s tree.parts.tokens tree.stop ∧
    ∀ e ∈ tree.forest.trees, e.rule.name = "expr" → e.FollowsOperators (.glow source) := by
  obtain ⟨a, hchoice⟩ := (attemptRule_answers "expr" s depth).result _ h
  have hextent := (attemptRule_extent "expr" s depth).result _ h
  refine ⟨choice_name hchoice, hextent.2.yields, ?_⟩
  intro e he hname
  obtain ⟨name, m, d, b, hmade⟩ := hchoice.made e he
  obtain rfl : "expr" = name := hname.symm.trans (choice_name hmade)
  exact hmade.followsOperators

def mixedSource : SourceFile := .ofText "mixed" "a * (b + 1) - \"*\" / 2;"

def mixedRun : Run (Option Tree) := attemptRule .glow 256 (.glow mixedSource) "expr" .start 0

def Tree.cutContents (t : Tree) : List (String × List String) :=
  (cutAtOperators 0 t.parts.tokens).2.map fun p => (p.1.content, p.2.map Token.content)

theorem expression_followsOperators_mixed :
    ∃ tree, mixedRun.result = .ok (some tree) ∧
      tree.cutContents = [("*", ["(", "b", "+", "1", ")"]), ("-", ["\"", "*", "\""]), ("/", ["2"])] ∧
      tree.FollowsOperators (.glow mixedSource) := by
  have hrun : mixedRun.result.toOption.join.map Tree.cutContents =
      some [("*", ["(", "b", "+", "1", ")"]), ("-", ["\"", "*", "\""]), ("/", ["2"])] := by
    decide +kernel
  obtain ⟨tree, htree, hcut⟩ := Option.map_eq_some_iff.mp hrun
  have hresult : mixedRun.result = .ok (some tree) := eq_ok_of_toOption (Option.join_eq_some_iff.mp htree)
  obtain ⟨hname, -, hall⟩ := expression_followsOperators hresult
  exact ⟨tree, hresult, hcut, hall tree List.mem_cons_self hname⟩

end GlowSyntax
