import GlowSyntax.Proofs.Match.Captures
import GlowSyntax.Proofs.Scan.Strings
import Mathlib.Algebra.Group.Nat.Defs

namespace GlowSyntax

namespace Alternative

def Labelled (a : Alternative) : Prop := a.labels.Nodup ∧ ∀ i ∈ a, i.reference?.isSome → i.label.isSome

instance (a : Alternative) : Decidable a.Labelled := inferInstanceAs (Decidable (_ ∧ _))

lemma Labelled.tail {i : Item} {items : List Item} (h : Labelled (i :: items)) : Labelled items :=
  ⟨h.1.sublist (labels_sublist i items), fun j hj => h.2 j (List.mem_cons_of_mem i hj)⟩

end Alternative

def Grammar.Labelled (g : Grammar) : Prop := ∀ r ∈ g.rules, ∀ a ∈ r.alternatives, a.Labelled

instance (g : Grammar) : Decidable g.Labelled := inferInstanceAs (Decidable (∀ r ∈ g.rules, _))

lemma Grammar.glow_labelled : glow.Labelled := by decide +kernel

namespace Forest

def leaves : Forest → List (Option String × Token)
  | nil => []
  | token label t rest => (label, t) :: rest.leaves
  | tree _ _ parts rest => parts.leaves ++ rest.leaves

def labelledTokens (f : Forest) : List Token := (f.leaves.filter (·.1.isSome)).map (·.2)

variable {g : Grammar} {items : List Item} {f parts rest : Forest} {l : String} {t : Token} {node : Node}

lemma leaves_tokens (f : Forest) : f.leaves.map (·.2) = f.tokens := by
  induction f with
  | nil => rfl
  | token label t rest ih => rw [leaves, List.map_cons, ih, tokens]
  | tree label node parts rest ihparts ih => rw [leaves, List.map_append, ihparts, ih, tokens]

lemma labelledTokens_sublist (f : Forest) : f.labelledTokens.Sublist f.tokens :=
  f.leaves_tokens ▸ List.filter_sublist.map _

lemma labelledTokens_tree {label : Option String} :
    (tree label node parts rest).labelledTokens = parts.labelledTokens ++ rest.labelledTokens := by
  rw [labelledTokens, leaves, List.filter_append, List.map_append]
  rfl

lemma capturedTokens_token (h : Fits g items rest) (hl : l ∉ Alternative.labels items) :
    (token (some l) t rest).capturedTokens.Perm (t :: rest.capturedTokens) :=
  (insertMissing_perm (h.ne_label hl)).flatMap_right _

lemma capturedTokens_tree (h : Fits g items rest) (hl : l ∉ Alternative.labels items) :
    (tree (some l) node parts rest).capturedTokens.Perm (parts.capturedTokens ++ rest.capturedTokens) :=
  (insertMissing_perm (h.ne_label hl)).flatMap_right _

-- A label that comes a second time would hide what is captured under it.
lemma Fits.capturedTokens_perm (hg : g.Labelled) (h : Fits g items f) (hitems : Alternative.Labelled items) :
    f.capturedTokens.Perm f.labelledTokens := by
  induction h with
  | nil => exact .refl _
  | @token k label t items rest _ hrest ih =>
    have ih := ih hitems.tail
    cases label with
    | none => exact ih
    | some l => exact (capturedTokens_token hrest (Alternative.not_mem_labels hitems.1)).trans (ih.cons t)
  | @tree name label node a parts items rest hf ha _ hrest ihparts ih =>
    have hmatched : Alternative.Labelled a := hg _ (Grammar.find?_eq_some hf).1 a (List.mem_of_getElem? ha)
    obtain ⟨l, rfl⟩ : ∃ l, label = some l := Option.isSome_iff_exists.mp (hitems.2 _ List.mem_cons_self rfl)
    rw [labelledTokens_tree]
    refine (capturedTokens_tree hrest (Alternative.not_mem_labels hitems.1)).trans ?_
    exact (ihparts hmatched).append (ih hitems.tail)

end Forest

lemma pairwise_mergeSort_start (ts : List Token) :
    (ts.mergeSort fun a b => a.span.start ≤ b.span.start).Pairwise fun a b => a.span.start ≤ b.span.start := by
  apply List.Pairwise.imp of_decide_eq_true
  apply List.pairwise_mergeSort
  · intro a b c hab hbc
    exact decide_eq_true (UInt32.le_trans (of_decide_eq_true hab) (of_decide_eq_true hbc))
  · intro a b
    simpa using UInt32.le_total a.span.start b.span.start

namespace Scanner

variable {source : SourceFile} {s s' : ScanState} {t : Token} {ts us vs : List Token}

lemma Yields.repeated (h : (Scanner.glow source).next s = .ok (t, s)) (hy : Yields (.glow source) s ts s') :
    ∀ u ∈ ts, u = t := by
  intro u hu
  obtain ⟨front, back, rfl⟩ := List.append_of_mem hu
  obtain ⟨m, hfront, hback⟩ := hy.split
  obtain rfl := hfront.at_end h
  cases hback with
  | cons hn _ =>
    rw [h] at hn
    cases hn
    rfl

lemma start_lt (hsize : Text.size source.text < 2 ^ 32) (h : (Scanner.glow source).next s = .ok (t, s'))
    (ht : ¬ t.isEnd) : t.span.start.toNat < s'.offset := by
  obtain ⟨m, hread, -⟩ := nextWithin_eq_ok h
  have hlt := read_advances hread ht
  obtain ⟨rest, text, -, -, heq, -⟩ := read_eq_ok hread
  rw [heq]
  exact lt_of_eq_of_lt (Span.start_ofOffsets (hlt.trans (lt_of_le_of_lt (next_bounds h).2 hsize))) hlt

lemma Yields.eq_of_start_eq (hsize : Text.size source.text < 2 ^ 32) (h : Yields (.glow source) s ts s') :
    ∀ a ∈ ts, ∀ b ∈ ts, a.span.start = b.span.start → a = b := by
  induction h with
  | nil => simp
  | @cons s m s' t ts hn hrest ih =>
    have hfirst : ∀ u ∈ ts, t.span.start = u.span.start → t = u := by
      intro u hu heq
      -- Only the end of the file is read more than once; every other token has some text.
      by_cases ht : t.isEnd
      · exact (hrest.repeated (next_again hn ht) u hu).symm
      · have hlt := (start_lt hsize hn ht).trans_le ((hrest.sorted hsize).1 u hu)
        rw [heq] at hlt
        exact absurd hlt (lt_irrefl _)
    intro a ha b hb heq
    cases ha with
    | head => exact (List.mem_cons.mp hb).elim Eq.symm fun hb => hfirst b hb heq
    | tail _ ha =>
      cases hb with
      | head => exact (hfirst a ha heq.symm).symm
      | tail _ hb => exact ih a ha b hb heq

lemma Yields.mergeSort_eq (hsize : Text.size source.text < 2 ^ 32) (h : Yields (.glow source) s ts s')
    (hus : us.Sublist ts) (hvs : vs.Perm us) : (vs.mergeSort fun a b => a.span.start ≤ b.span.start) = us := by
  have hperm := (List.mergeSort_perm vs fun a b => a.span.start ≤ b.span.start).trans hvs
  refine List.Perm.eq_of_pairwise ?_ (pairwise_mergeSort_start vs) ((h.sorted hsize).2.sublist hus) hperm
  intro a b ha hb hab hba
  have hmem := hus.subset (hperm.subset ha)
  exact h.eq_of_start_eq hsize a hmem b (hus.subset hb) (UInt32.le_antisymm hab hba)

end Scanner

theorem tokens_eq_labelled {source : SourceFile} (hsize : Text.size source.text < 2 ^ 32 - 1) :
    Grammar.glow.Labelled ∧ ∀ (g : Grammar) limit s t m, g.Labelled → g.Matches limit (.glow source) s t →
      m ∈ t.forest.trees → m.tokens = m.parts.labelledTokens ∧ m.parts.leaves.map (·.2) = m.parts.tokens ∧
        Forest.Fits g m.matched m.parts ∧ m.parts.tokens <:+: t.parts.tokens ∧
        Scanner.Yields (.glow source) s t.parts.tokens t.stop := by
  refine ⟨Grammar.glow_labelled, fun g limit s t m hg h hm => ?_⟩
  obtain ⟨hrule, halternative, hfits⟩ := h.isOf hm
  have hmatched : m.matched.Labelled := hg _ (Grammar.find?_eq_some hrule).1 _ (List.mem_of_getElem? halternative)
  have hinfix := Tree.infix_of_node hm
  have hsublist := m.parts.labelledTokens_sublist.trans hinfix.sublist
  have hperm := hfits.capturedTokens_perm hg hmatched
  have htokens := h.yields.mergeSort_eq (lt_of_lt_of_le hsize (Nat.sub_le _ _)) hsublist hperm
  exact ⟨htokens, m.parts.leaves_tokens, hfits, hinfix, h.yields⟩

def clauseRules : Grammar := .ofRules [
  ⟨"clause", [[.ruleAs "name" "z", .ruleAs "nothing" "m", .token .assign, .tokenAs .integer "a",
    .tokenAs .endOfFile "e", .tokenAs .endOfFile "b"]]⟩,
  ⟨"name", [[.tokenAs .identifier "text", .token .colon]]⟩,
  ⟨"nothing", [[]]⟩]

def clauseRun : Run (Option Tree) := attemptRule clauseRules 256 (.glow (.ofText "clause" "x : = 1")) "clause" .start 0

theorem tokens_eq_labelled_clause : Text.size (SourceFile.ofText "clause" "x : = 1").text < 2 ^ 32 - 1 ∧
    clauseRules.Labelled ∧ ∃ t, clauseRun.result = .ok (some t) ∧
      t.parts.tokens.map Token.content = ["x", ":", "=", "1", "", ""] ∧
      t.tokens.map Token.content = ["x", "1", "", ""] := by
  have hsize : Text.size (SourceFile.ofText "clause" "x : = 1").text < 2 ^ 32 - 1 := by decide +kernel
  have hlabelled : clauseRules.Labelled := by decide +kernel
  have hrun : clauseRun.result.toOption.join.map (fun t =>
      (t.parts.tokens.map Token.content, t.parts.labelledTokens.map Token.content)) =
      some (["x", ":", "=", "1", "", ""], ["x", "1", "", ""]) := by decide +kernel
  obtain ⟨t, ht, hcontents⟩ := Option.map_eq_some_iff.mp hrun
  obtain ⟨hall, hcaptured⟩ := Prod.mk.inj hcontents
  have hresult := eq_ok_of_toOption (Option.join_eq_some_iff.mp ht)
  obtain ⟨htokens, -⟩ := (tokens_eq_labelled hsize).2 _ _ _ t t hlabelled (.rule hresult) List.mem_cons_self
  exact ⟨hsize, hlabelled, t, hresult, hall, htokens ▸ hcaptured⟩

end GlowSyntax
