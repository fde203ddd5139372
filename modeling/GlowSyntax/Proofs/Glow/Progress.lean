import GlowSyntax.Proofs.Glow.Recognition
import GlowSyntax.Proofs.Match.Misses

namespace GlowSyntax

/-- The beginning `w` of a phrase, in front of a token with which no phrase goes on. If the text ends there,
then not where a string could begin or end: no rule would be tried there, though one would be due. -/
structure Phrase.Stuck (tokens : Nat → Option Token) (n : Nat) (k : Kind) (p : Phrase) (i : Nat) (w : List Kind) :
    Prop where
  kinds : KindsAt tokens i w
  stop : n = i + w.length
  next : kindAt tokens n = some k
  blocked : ∀ v, ¬ Sentence p (w ++ k :: v)
  no_quote : k = .endOfFile → ∀ v, ¬ Sentence p (w ++ .quote :: v)

inductive Phrase.Comes (tokens : Nat → Option Token) (n : Nat) (k : Kind) (p : Phrase) (i : Nat) (w : List Kind) :
    Prop
  | misses : Misses .glow tokens [.rule p.rule] i n → Comes tokens n k p i w
  | takes : Sentence p w → Takes .glow tokens [.rule p.rule] i n → Comes tokens n k p i w
  | refused : k = .endOfFile → w = [] ∨ p = .chars ∧ Sentence .chars w → Comes tokens n k p i w

variable {tokens : Nat → Option Token} {i j n : Nat} {k l : Kind} {u v w : List Kind} {p q : Phrase}

namespace Phrase.Stuck

lemma ne (h : Stuck tokens n k p i w) (hs : Sentence p (w ++ l :: v)) : k ≠ l := by
  rintro rfl
  exact h.blocked v hs

lemma ne_end (h : Stuck tokens n k p i w) (hs : Sentence p (w ++ .quote :: v)) : k ≠ .endOfFile :=
  fun he => h.no_quote he v hs

lemma part (u : List Kind) (h : Stuck tokens n k p i (u ++ w))
    (hs : ∀ y, Sentence q y → ∃ z, Sentence p (u ++ y ++ z)) :
    Stuck tokens n k q (i + u.length) w where
  kinds := (kindsAt_append.mp h.kinds).2
  stop := by rw [h.stop, List.length_append, Nat.add_assoc]
  next := h.next
  blocked v hv := by
    obtain ⟨z, hz⟩ := hs _ hv
    exact h.blocked (v ++ z) (by simpa using hz)
  no_quote he v hv := by
    obtain ⟨z, hz⟩ := hs _ hv
    exact h.no_quote he (v ++ z) (by simpa using hz)

end Phrase.Stuck

open Phrase

lemma prefix_append_cases {α : Type} {u v w : List α} (h : w <+: u ++ v) : w <+: u ∨ ∃ y, w = u ++ y ∧ y <+: v := by
  rcases List.prefix_or_prefix_of_prefix h (List.prefix_append u v) with hw | ⟨y, rfl⟩
  · exact Or.inl hw
  · exact Or.inr ⟨y, rfl, (List.prefix_append_right_inj u).mp h⟩

lemma comes_no_chars (h : Stuck tokens n k .chars i []) : Comes tokens n k .chars i [] := by
  obtain rfl : n = i := h.stop
  by_cases he : k = .endOfFile
  · exact .refused he (Or.inl rfl)
  · refine .takes .noChars (.choose [_, _] rfl h.next he rfl (bars_all h.next ?_) .nil)
    have hstring : k ≠ .stringChar := h.ne (.moreChars (Or.inl rfl) .noChars)
    have hescaped : k ≠ .escapedQuote := h.ne (.moreChars (Or.inr rfl) .noChars)
    simp only [List.all_cons, List.all_nil, Alternative.bars, Item.tokenAs, Bool.and_true, Bool.and_eq_true,
      bne_iff_ne]
    exact ⟨hstring.symm, hescaped.symm⟩

lemma misses_chars (hc : l.IsChar) (hk : kindAt tokens i = some l)
    (h : Misses .glow tokens [.rule "chars"] (i + 1) n) : Misses .glow tokens [.rule "chars"] i n := by
  rcases hc with rfl | rfl
  · exact .inside [] rfl hk (by decide) rfl (by simp) (.token hk (h.extend ⟨[], rfl⟩))
  · exact .inside [_] rfl hk (by decide) rfl (bars_all hk rfl) (.token hk (h.extend ⟨[], rfl⟩))

lemma comes_chars (hc : l.IsChar) (h : Stuck tokens n k .chars i (l :: w))
    (hw : Comes tokens n k .chars (i + 1) w) : Comes tokens n k .chars i (l :: w) := by
  cases hw with
  | misses hm => exact .misses (misses_chars hc h.kinds.1 hm)
  | takes hs ht => exact .takes (.moreChars hc hs) (takes_chars hc h.kinds.1 ht)
  | refused he hw =>
    rcases hw with rfl | ⟨-, hs⟩
    · exact .refused he (Or.inr ⟨rfl, .moreChars hc .noChars⟩)
    · exact .refused he (Or.inr ⟨rfl, .moreChars hc hs⟩)

lemma misses_factor (he : k ≠ .endOfFile) (hp : k ≠ .parenOpen) (hk : kindAt tokens i = some k) :
    Misses .glow tokens [.rule "factor"] i i := by
  have hparen : Misses .glow tokens [.rule "paren"] i i :=
    .inside [] rfl hk he rfl (by simp) (.here hk hp)
  exact .inside [] rfl hk he rfl (by simp) (hparen.extend ⟨[], rfl⟩)

lemma comes_no_factor (h : Stuck tokens n k .factor i []) : Comes tokens n k .factor i [] := by
  obtain rfl : n = i := h.stop
  have hend : k ≠ .endOfFile := h.ne_end (.string .noChars)
  have hparen : k ≠ .parenOpen := h.ne (.paren (.expr .name .noOperations))
  exact .misses (misses_factor hend hparen h.next)

lemma comes_whole (hs : Sentence p w) (h : Stuck tokens n k p i w) (he : p.EndsAt tokens n) :
    Comes tokens n k p i w :=
  .takes hs (takes_sentence hs h.kinds h.stop he)

lemma comes_leaf (hs : Sentence .factor [l]) (hw : w <+: [l]) (h : Stuck tokens n k .factor i w) :
    Comes tokens n k .factor i w := by
  rcases List.prefix_cons_iff.mp hw with rfl | ⟨v, rfl, hv⟩
  · exact comes_no_factor h
  · obtain rfl := List.prefix_nil.mp hv
    exact comes_whole hs h trivial

lemma misses_string (hk : kindAt tokens i = some .quote)
    (h : Misses .glow tokens [.rule "chars", .token .quote] (i + 1) n) :
    Misses .glow tokens [.rule "factor"] i n := by
  have hstring : Misses .glow tokens [.rule "string"] i n :=
    .inside [] rfl hk (by decide) rfl (by simp) (.token hk (h.extend ⟨[], rfl⟩))
  have hatomic : Misses .glow tokens [.rule "atomic"] i n :=
    .inside [_, _] rfl hk (by decide) rfl (bars_all hk rfl) (hstring.extend ⟨[], rfl⟩)
  refine .inside [[.ruleAs "paren" "body"]] rfl hk (by decide) rfl ?_ (hatomic.extend ⟨[], rfl⟩)
  -- No parenthesis is there, so the first alternative is refused.
  simp only [List.mem_singleton, forall_eq]
  exact reads_none_of_refused rfl hk (by decide) (bars_all hk rfl)

lemma comes_string (h : Stuck tokens n k .factor i (.quote :: w)) (hw : Comes tokens n k .chars (i + 1) w) :
    Comes tokens n k .factor i (.quote :: w) := by
  cases hw with
  | misses hm => exact .misses (misses_string h.kinds.1 (hm.extend ⟨_, rfl⟩))
  | takes hs ht =>
    have hquote : k ≠ .quote := h.ne (.string hs)
    exact .misses (misses_string h.kinds.1 (.behind ht (.here h.next hquote)))
  | refused he hw =>
    rcases hw with rfl | ⟨-, hs⟩
    · exact absurd he (h.ne_end (.string .noChars))
    · exact absurd he (h.ne_end (.string hs))

lemma misses_paren (hk : kindAt tokens i = some .parenOpen)
    (h : Misses .glow tokens [.rule "expr", .token .parenClose] (i + 1) n) :
    Misses .glow tokens [.rule "factor"] i n := by
  have hparen : Misses .glow tokens [.rule "paren"] i n :=
    .inside [] rfl hk (by decide) rfl (by simp) (.token hk (h.extend ⟨[], rfl⟩))
  exact .inside [] rfl hk (by decide) rfl (by simp) (hparen.extend ⟨[], rfl⟩)

lemma comes_paren (h : Stuck tokens n k .factor i (.parenOpen :: w)) (hw : Comes tokens n k .expr (i + 1) w) :
    Comes tokens n k .factor i (.parenOpen :: w) := by
  cases hw with
  | misses hm => exact .misses (misses_paren h.kinds.1 (hm.extend ⟨_, rfl⟩))
  | takes hs ht =>
    have hclose : k ≠ .parenClose := h.ne (.paren hs)
    exact .misses (misses_paren h.kinds.1 (.behind ht (.here h.next hclose)))
  | refused he hw =>
    rcases hw with rfl | ⟨⟨⟩, -⟩
    have hquote : Sentence .expr [.quote, .quote] := .expr (.string .noChars) .noOperations
    exact absurd he (h.ne_end (.paren hquote))

section Operations

lemma misses_expr (h : Misses .glow tokens [.rule "factor", .rule "expr_tail"] i n) :
    Misses .glow tokens [.rule "expr"] i n := by
  obtain ⟨l, hk, he⟩ := h.kindAt_ne_end
  exact .inside [] rfl hk he rfl (by simp) (h.extend ⟨[], rfl⟩)

lemma misses_operations (hop : l.IsOperator) (hk : kindAt tokens i = some l)
    (h : Misses .glow tokens [.rule "factor", .rule "expr_tail"] (i + 1) n) :
    Misses .glow tokens [.rule "expr_tail"] i n := by
  obtain ⟨r, before, after, hr, hb, has | has⟩ := operator_alternatives hop
  · exact .inside before hr hk hop.ne_end has (bars_all hk hb) (.token hk (h.extend ⟨[], rfl⟩))
  · exact .inside before hr hk hop.ne_end has (bars_all hk hb) (.token hk ((misses_expr h).extend ⟨[], rfl⟩))

lemma takes_last_factor (hf : Takes .glow tokens [.rule "factor"] i j) (he : kindAt tokens j = some .endOfFile) :
    Takes .glow tokens [.rule "expr"] i j := by
  obtain ⟨l, hk, hne⟩ := hf.kindAt_ne_end
  refine .choose [[.ruleAs "factor" "lhs", .ruleAs "expr_tail" "tail"]] rfl hk hne rfl ?_ (.rule hf .nil)
  simp only [List.mem_singleton, forall_eq]
  exact hf.rule_none (reads_none_of_end rfl he)

lemma takes_last_operation (hop : l.IsOperator) (hk : kindAt tokens i = some l)
    (hf : Takes .glow tokens [.rule "factor"] (i + 1) j) (he : kindAt tokens j = some .endOfFile) :
    Takes .glow tokens [.rule "expr_tail"] i j := by
  obtain ⟨r, before, after, hr, hb, has | has⟩ := operator_alternatives hop
  · -- The alternative with a tail is refused at the end of the text, the one behind it has none.
    have htail :
        Reads .glow tokens [.tokenAs l "op", .ruleAs "factor" "rhs", .ruleAs "expr_tail" "tail"] i none := by
      obtain ⟨t, ht, hl⟩ := kindAt_eq_some.mp hk
      exact .token ht hl (hf.rule_none (reads_none_of_end rfl he))
    have hbefore := List.forall_mem_append.mpr ⟨bars_all hk hb, List.forall_mem_singleton.mpr htail⟩
    have htakes : Takes .glow tokens [.tokenAs l "op", .ruleAs "factor" "rhs"] i j := .token hk (.rule hf .nil)
    exact .choose (before ++ [_]) hr hk hop.ne_end (has.trans (List.append_cons before _ _)) hbefore htakes
  · exact .choose before hr hk hop.ne_end has (bars_all hk hb) (.token hk (.rule (takes_last_factor hf he) .nil))

inductive Operands (tokens : Nat → Option Token) (n : Nat) (k : Kind) (i : Nat) (w : List Kind) : Prop
  | misses : Misses .glow tokens [.rule "factor", .rule "expr_tail"] i n → Operands tokens n k i w
  | takes {m} : Sentence .expr w → Takes .glow tokens [.rule "factor"] i m →
      Takes .glow tokens [.rule "expr_tail"] m n → Operands tokens n k i w
  | last : Sentence .expr w → Takes .glow tokens [.rule "factor"] i n → k = .endOfFile → Operands tokens n k i w

lemma operands_of_factor (hs : Sentence .factor w) (ht : Takes .glow tokens [.rule "factor"] i n)
    (h : Stuck tokens n k .expr i w) : Operands tokens n k i w := by
  have hexpr : Sentence .expr w := by simpa using Sentence.expr hs .noOperations
  by_cases he : k = .endOfFile
  · exact .last hexpr ht he
  · have hop : ¬ k.IsOperator := fun hop => h.blocked _ (.expr hs (.moreOperations hop .name .noOperations))
    exact .takes hexpr ht (takes_no_operations hop he h.next)

lemma operands_of_stuck (hu : Sentence .factor u)
    (ihu : ∀ {i w}, Stuck tokens n k .factor i w → w <+: u → Comes tokens n k .factor i w)
    (ihv : ∀ {i w}, Stuck tokens n k .operations i w → w <+: v → Comes tokens n k .operations i w)
    (hw : w <+: u ++ v) (h : Stuck tokens n k .expr i w) : Operands tokens n k i w := by
  rcases prefix_append_cases hw with hw | ⟨y, rfl, hy⟩
  · have hfactor : Stuck tokens n k .factor i w := h.part [] fun y hy => ⟨[], .expr hy .noOperations⟩
    cases ihu hfactor hw with
    | misses hm => exact .misses (hm.extend ⟨_, rfl⟩)
    | takes hs ht => exact operands_of_factor hs ht h
    | refused he hw =>
      rcases hw with rfl | ⟨⟨⟩, -⟩
      exact absurd he (hfactor.ne_end (.string .noChars))
  · have ht : Takes .glow tokens [.rule "factor"] i (i + u.length) :=
      takes_sentence hu (kindsAt_append.mp h.kinds).1 rfl trivial
    have hops : Stuck tokens n k .operations (i + u.length) y :=
      h.part u fun z hz => ⟨[], by simpa using Sentence.expr hu hz⟩
    cases ihv hops hy with
    | misses hm => exact .misses (.behind ht (hm.extend ⟨[], rfl⟩))
    | takes hs ht' => exact .takes (.expr hu hs) ht ht'
    | refused he hy =>
      rcases hy with rfl | ⟨⟨⟩, -⟩
      obtain rfl : n = i + u.length := hops.stop
      exact .last (.expr hu .noOperations) ht he

lemma Operands.expr (h : Operands tokens n k i w) (hk : kindAt tokens n = some k) : Comes tokens n k .expr i w := by
  cases h with
  | misses hm => exact .misses (misses_expr hm)
  | takes hs ht ht' => exact .takes hs (takes_expr ht ht')
  | last hs ht he => exact .takes hs (takes_last_factor ht (he ▸ hk))

lemma Operands.operations (h : Operands tokens n k (i + 1) w) (hop : l.IsOperator) (hl : kindAt tokens i = some l)
    (hk : kindAt tokens n = some k) : Comes tokens n k .operations i (l :: w) := by
  have hs : Sentence .expr w → Sentence .operations (l :: w) := by
    intro hw
    cases hw with
    | expr hu hv => exact .moreOperations hop hu hv
  cases h with
  | misses hm => exact .misses (misses_operations hop hl hm)
  | takes hw ht ht' => exact .takes (hs hw) (takes_operations hop hl ht ht')
  | last hw ht he => exact .takes (hs hw) (takes_last_operation hop hl ht (he ▸ hk))

end Operations

lemma comes_no_operations (h : Stuck tokens n k .operations i []) : Comes tokens n k .operations i [] := by
  obtain rfl : n = i := h.stop
  by_cases he : k = .endOfFile
  · exact .refused he (Or.inl rfl)
  · have hop : ¬ k.IsOperator := fun hop => h.blocked _ (.moreOperations hop .name .noOperations)
    exact .takes .noOperations (takes_no_operations hop he h.next)

section Declaration

lemma misses_no_declaration (hb : ¬ k.IsBinder) (he : k ≠ .endOfFile) (hk : kindAt tokens i = some k) :
    Misses .glow tokens [.rule "declaration"] i i :=
  .inside [] rfl hk he rfl (by simp) (.here hk fun hvar => hb (Or.inl hvar))

lemma misses_declaration (hb : l.IsBinder) (hk : kindAt tokens i = some l)
    (h : Misses .glow tokens (Grammar.binding l).tail (i + 1) n) :
    Misses .glow tokens [.rule "declaration"] i n := by
  rcases hb with rfl | rfl
  · exact .inside [] rfl hk (by decide) rfl (by simp) (.token hk h)
  · exact .inside [Grammar.binding .kwVar] rfl hk (by decide) rfl (bars_all hk rfl) (.token hk h)

lemma comes_no_declaration (h : Stuck tokens n k .declaration i []) : Comes tokens n k .declaration i [] := by
  obtain rfl : n = i := h.stop
  have hb : ¬ k.IsBinder := fun hb => h.blocked _ (.declaration hb (.expr .name .noOperations))
  by_cases he : k = .endOfFile
  · exact .refused he (Or.inl rfl)
  · exact .misses (misses_no_declaration hb he h.next)

lemma comes_no_name (hb : l.IsBinder) (h : Stuck tokens n k .declaration i [l]) :
    Comes tokens n k .declaration i [l] := by
  obtain rfl : n = i + 1 := h.stop
  have hname : k ≠ .identifier := h.ne (.declaration hb (.expr .name .noOperations))
  exact .misses (misses_declaration hb h.kinds.1 (.here h.next hname))

lemma comes_no_assign (hb : l.IsBinder) (h : Stuck tokens n k .declaration i [l, .identifier]) :
    Comes tokens n k .declaration i [l, .identifier] := by
  obtain rfl : n = i + 1 + 1 := h.stop
  obtain ⟨hl, hname, -⟩ := h.kinds
  have hassign : k ≠ .assign := h.ne (.declaration hb (.expr .name .noOperations))
  exact .misses (misses_declaration hb hl (.token hname (.here h.next hassign)))

lemma comes_value (hb : l.IsBinder) (h : Stuck tokens n k .declaration i (l :: .identifier :: .assign :: w))
    (hw : Comes tokens n k .expr (i + 3) w) :
    Comes tokens n k .declaration i (l :: .identifier :: .assign :: w) := by
  obtain ⟨hl, hname, hassign, -⟩ := h.kinds
  have hvalue : Misses .glow tokens [.ruleAs "expr" "value", .token .semicolon] (i + 3) n →
      Misses .glow tokens [.rule "declaration"] i n :=
    fun hm => misses_declaration hb hl (.token hname (.token hassign hm))
  cases hw with
  | misses hm => exact .misses (hvalue (hm.extend ⟨_, rfl⟩))
  | takes hs ht =>
    have hsemicolon : k ≠ .semicolon := h.ne (.declaration hb hs)
    exact .misses (hvalue (.behind ht (.here h.next hsemicolon)))
  | refused he hw =>
    rcases hw with rfl | ⟨⟨⟩, -⟩
    exact absurd he (h.ne_end (.declaration hb (.expr (.string .noChars) .noOperations)))

end Declaration

section Program

lemma misses_program (hd : Takes .glow tokens [.rule "declaration"] i j)
    (h : Misses .glow tokens [.rule "program"] j n) : Misses .glow tokens [.rule "program"] i n := by
  obtain ⟨l, hk, he⟩ := hd.kindAt_ne_end
  exact .inside [] rfl hk he rfl (by simp) (.behind hd (h.extend ⟨[], rfl⟩))

lemma misses_first (h : Misses .glow tokens [.rule "declaration"] i n) :
    Misses .glow tokens [.rule "program"] i n := by
  obtain ⟨l, hk, he⟩ := h.kindAt_ne_end
  exact .inside [] rfl hk he rfl (by simp) (h.extend ⟨_, rfl⟩)

lemma comes_first (h : Stuck tokens n k .program i w) (hw : Comes tokens n k .declaration i w) :
    Comes tokens n k .program i w := by
  cases hw with
  | misses hm => exact .misses (misses_first hm)
  | takes hs ht =>
    by_cases he : k = .endOfFile
    · exact .takes (.lastDeclaration hs) (takes_last_declaration ht (he ▸ h.next))
    · have hb : ¬ k.IsBinder := fun hb =>
        h.blocked _ (.moreDeclarations hs (.lastDeclaration (.declaration hb (.expr .name .noOperations))))
      exact .misses (misses_program ht (misses_first (misses_no_declaration hb he h.next)))
  | refused he hw =>
    rcases hw with rfl | ⟨⟨⟩, -⟩
    exact .refused he (Or.inl rfl)

lemma comes_rest (hu : Sentence .declaration u) (h : Stuck tokens n k .program i (u ++ w))
    (hw : Comes tokens n k .program (i + u.length) w) : Comes tokens n k .program i (u ++ w) := by
  have hd : Takes .glow tokens [.rule "declaration"] i (i + u.length) :=
    takes_sentence hu (kindsAt_append.mp h.kinds).1 rfl trivial
  cases hw with
  | misses hm => exact .misses (misses_program hd hm)
  | takes hs ht => exact .takes (.moreDeclarations hu hs) (takes_program hd ht)
  | refused he hw =>
    rcases hw with rfl | ⟨⟨⟩, -⟩
    have hstop := h.stop
    rw [List.append_nil] at hstop ⊢
    exact .takes (.lastDeclaration hu) (hstop ▸ takes_last_declaration hd (hstop ▸ he ▸ h.next))

end Program

lemma Phrase.Stuck.comes {x : List Kind} (h : Stuck tokens n k p i w) (hx : Sentence p x) (hw : w <+: x) :
    Comes tokens n k p i w := by
  induction hx generalizing i w with
  | noChars =>
    obtain rfl := List.prefix_nil.mp hw
    exact comes_no_chars h
  | @moreChars c _ hc _ ih =>
    rcases List.prefix_cons_iff.mp hw with rfl | ⟨v, rfl, hv⟩
    · exact comes_no_chars h
    · exact comes_chars hc h (ih (h.part [c] fun y hy => ⟨[], by simpa using .moreChars hc hy⟩) hv)
  | name => exact comes_leaf .name hw h
  | integer => exact comes_leaf .integer hw h
  | string hc ih =>
    rcases List.prefix_concat_iff.mp hw with rfl | hw
    · exact comes_whole (.string hc) h trivial
    · rcases List.prefix_cons_iff.mp hw with rfl | ⟨v, rfl, hv⟩
      · exact comes_no_factor h
      · exact comes_string h (ih (h.part [.quote] fun y hy => ⟨[.quote], .string hy⟩) hv)
  | paren he ih =>
    rcases List.prefix_concat_iff.mp hw with rfl | hw
    · exact comes_whole (.paren he) h trivial
    · rcases List.prefix_cons_iff.mp hw with rfl | ⟨v, rfl, hv⟩
      · exact comes_no_factor h
      · exact comes_paren h (ih (h.part [.parenOpen] fun y hy => ⟨[.parenClose], .paren hy⟩) hv)
  | noOperations =>
    obtain rfl := List.prefix_nil.mp hw
    exact comes_no_operations h
  | @moreOperations l u v hop hu hv ihu ihv =>
    rcases List.prefix_cons_iff.mp hw with rfl | ⟨y, rfl, hy⟩
    · exact comes_no_operations h
    · have hrest : Stuck tokens n k .expr (i + 1) y := by
        refine h.part [l] fun z hz => ⟨[], ?_⟩
        cases hz with
        | expr hu hv => simpa using Sentence.moreOperations hop hu hv
      exact (operands_of_stuck hu ihu ihv hy hrest).operations hop h.kinds.1 h.next
  | expr hu hv ihu ihv => exact (operands_of_stuck hu ihu ihv hw h).expr h.next
  | @declaration l _ hb he ih =>
    rcases List.prefix_concat_iff.mp hw with rfl | hw
    · exact comes_whole (.declaration hb he) h trivial
    · rcases List.prefix_cons_iff.mp hw with rfl | ⟨v, rfl, hv⟩
      · exact comes_no_declaration h
      rcases List.prefix_cons_iff.mp hv with rfl | ⟨y, rfl, hy⟩
      · exact comes_no_name hb h
      rcases List.prefix_cons_iff.mp hy with rfl | ⟨z, rfl, hz⟩
      · exact comes_no_assign hb h
      · refine comes_value hb h (ih (h.part [l, .identifier, .assign] fun y hy => ⟨[.semicolon], ?_⟩) hz)
        exact .declaration hb hy
  | lastDeclaration _ ih =>
    exact comes_first h (ih (h.part [] fun y hy => ⟨[], by simpa using .lastDeclaration hy⟩) hw)
  | @moreDeclarations u _ hu _ ihu ihv =>
    rcases prefix_append_cases hw with hw | ⟨y, rfl, hy⟩
    · exact comes_first h (ihu (h.part [] fun y hy => ⟨[], by simpa using .lastDeclaration hy⟩) hw)
    · exact comes_rest hu h (ihv (h.part u fun z hz => ⟨[], by simpa using .moreDeclarations hu hz⟩) hy)

end GlowSyntax
