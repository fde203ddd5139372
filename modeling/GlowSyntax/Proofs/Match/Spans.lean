import GlowSyntax.Proofs.Match.Captures
import GlowSyntax.Proofs.Scan.Strings

namespace GlowSyntax

lemma Span.merge_of_le {a b c d : UInt32} (hstart : a ≤ c) (hstop : b ≤ d) : merge ⟨a, b⟩ ⟨c, d⟩ = ⟨a, d⟩ := by
  have hmin : min a c = a := if_pos hstart
  have hmax : max b d = d := if_pos hstop
  rw [merge, hmin, hmax]

structure InOrder (ts : List Token) : Prop where
  forwards : ∀ t ∈ ts, t.span.start ≤ t.span.stop
  apart : ts.Pairwise fun t u => t.span.stop ≤ u.span.start

inductive Spans : List Token → Option Span → Prop
  | nothing : Spans [] none
  | between {ts first last} : ts.head? = some first → ts.getLast? = some last →
      Spans ts (some ⟨first.span.start, last.span.stop⟩)

namespace InOrder

variable {ts us : List Token} {t : Token}

lemma sublist (h : InOrder ts) (hs : us.Sublist ts) : InOrder us :=
  ⟨fun t ht => h.forwards t (hs.subset ht), h.apart.sublist hs⟩

lemma left (h : InOrder (ts ++ us)) : InOrder ts := h.sublist (List.sublist_append_left ts us)

lemma right (h : InOrder (ts ++ us)) : InOrder us := h.sublist (List.sublist_append_right ts us)

lemma precedes (h : InOrder (ts ++ us)) {u : Token} (ht : t ∈ ts) (hu : u ∈ us) : t.span.stop ≤ u.span.start :=
  (List.pairwise_append.mp h.apart).2.2 t ht u hu

lemma start_le (h : InOrder ts) {first : Token} (hfirst : ts.head? = some first) (ht : t ∈ ts) :
    first.span.start ≤ t.span.start := by
  obtain ⟨rest, rfl⟩ := List.head?_eq_some_iff.mp hfirst
  rcases List.mem_cons.mp ht with rfl | ht
  · exact UInt32.le_refl _
  · exact UInt32.le_trans (h.forwards first List.mem_cons_self) ((List.pairwise_cons.mp h.apart).1 t ht)

lemma le_stop (h : InOrder ts) {last : Token} (hlast : ts.getLast? = some last) (ht : t ∈ ts) :
    t.span.stop ≤ last.span.stop := by
  obtain ⟨front, rfl⟩ := List.getLast?_eq_some_iff.mp hlast
  rcases List.mem_append.mp ht with ht | ht
  · have hlast := List.mem_singleton_self last
    exact UInt32.le_trans (h.precedes ht hlast) (h.right.forwards last hlast)
  · rw [List.mem_singleton.mp ht]
    exact UInt32.le_refl _

end InOrder

namespace Spans

variable {ts us : List Token} {a b : Option Span} {t : Token}

lemma single (t : Token) : Spans [t] (some t.span) := .between rfl rfl

lemma eq_nil (h : Spans ts none) : ts = [] := by
  cases h
  rfl

lemma append (h : Spans ts a) (h' : Spans us b) (ho : InOrder (ts ++ us)) : Spans (ts ++ us) (cover a b) := by
  cases h with
  | nothing => exact h'
  | @between _ first last hfirst hlast =>
    cases h' with
    | nothing => exact (List.append_nil ts).symm ▸ .between hfirst hlast
    | @between _ first' last' hfirst' hlast' =>
      have hhead : (ts ++ us).head? = some first := by rw [List.head?_append, hfirst]; rfl
      have hend : (ts ++ us).getLast? = some last' := by rw [List.getLast?_append, hlast']; rfl
      have hstart := ho.start_le hhead (List.mem_append_right ts (List.mem_of_head? hfirst'))
      have hstop := ho.le_stop hend (List.mem_append_left us (List.mem_of_getLast? hlast))
      have hmerge : cover (some ⟨first.span.start, last.span.stop⟩) (some ⟨first'.span.start, last'.span.stop⟩) =
          some ⟨first.span.start, last'.span.stop⟩ := congrArg some (Span.merge_of_le hstart hstop)
      exact hmerge ▸ .between hhead hend

lemma covers {x : Span} (h : Spans ts (some x)) (ho : InOrder ts) (ht : t ∈ ts) :
    x.start ≤ t.span.start ∧ t.span.stop ≤ x.stop := by
  cases h with
  | between hfirst hlast => exact ⟨ho.start_le hfirst ht, ho.le_stop hlast ht⟩

lemma ends {x : Span} (h : Spans ts (some x)) :
    (∃ t ∈ ts, x.start = t.span.start) ∧ ∃ t ∈ ts, x.stop = t.span.stop := by
  cases h with
  | between hfirst hlast => exact ⟨⟨_, List.mem_of_head? hfirst, rfl⟩, _, List.mem_of_getLast? hlast, rfl⟩

lemma nested {x : Span} (h : Spans us (some x)) (hs : us.Sublist ts) (h' : Spans ts b) (ho : InOrder ts) :
    ∃ y, b = some y ∧ y.start ≤ x.start ∧ x.stop ≤ y.stop := by
  obtain ⟨⟨t, ht, hstart⟩, u, hu, hstop⟩ := h.ends
  cases b with
  | none => exact absurd (h'.eq_nil ▸ hs.subset ht) List.not_mem_nil
  | some y => exact ⟨y, rfl, hstart ▸ (h'.covers ho (hs.subset ht)).1, hstop ▸ (h'.covers ho (hs.subset hu)).2⟩

lemma apart {x y : Span} (h : Spans ts (some x)) (h' : Spans us (some y))
    (hapart : ∀ t ∈ ts, ∀ u ∈ us, t.span.stop ≤ u.span.start) : x.stop ≤ y.start := by
  obtain ⟨-, t, ht, hstop⟩ := h.ends
  obtain ⟨⟨u, hu, hstart⟩, -⟩ := h'.ends
  rw [hstop, hstart]
  exact hapart t ht u hu

end Spans

namespace Forest

lemma spans {f : Forest} (h : InOrder f.tokens) : Spans f.tokens f.span := by
  induction f with
  | nil => exact .nothing
  | token label t rest ih =>
    have hrest : InOrder rest.tokens := h.sublist (List.sublist_cons_self t rest.tokens)
    exact (Spans.single t).append (ih hrest) h
  | tree label node parts rest ihparts ih => exact (ihparts h.left).append (ih h.right) h

end Forest

lemma Capture.spans {c : Capture} (h : InOrder c.tokens) : Spans c.tokens c.span := by
  cases c with
  | token t => exact .single t
  | tree t => exact Forest.spans h

lemma Scanner.Yields.inOrder {sc : Scanner} {s s' : ScanState} {ts : List Token}
    (hsize : Text.size sc.source.text < 2 ^ 32) (h : sc.Yields s ts s') : InOrder ts := by
  induction h with
  | nil => exact ⟨by simp, .nil⟩
  | @cons s m s' t ts hn hrest ih =>
    obtain ⟨n, -, hle, hspan⟩ := next_span hn
    have hbound : m.offset < UInt32.size := lt_of_le_of_lt (next_bounds hn).2 hsize
    have hstart : t.span.start.toNat = n := by
      rw [hspan]
      exact Span.start_ofOffsets (lt_of_le_of_lt hle hbound)
    have hstop : t.span.stop.toNat = m.offset := by
      rw [hspan]
      exact Span.stop_ofOffsets hbound
    refine ⟨List.forall_mem_cons.mpr ⟨?_, ih.forwards⟩, List.pairwise_cons.mpr ⟨fun u hu => ?_, ih.apart⟩⟩
    · rw [UInt32.le_iff_toNat_le, hstart, hstop]
      exact hle
    · rw [UInt32.le_iff_toNat_le, hstop]
      exact (hrest.sorted hsize).1 u hu

structure Tree.Spanned (t : Tree) : Prop where
  spans : Spans t.parts.tokens t.span
  within : ∀ e ∈ t.captures, ∀ x, e.2.span = some x → ∃ y, t.span = some y ∧ y.start ≤ x.start ∧ x.stop ≤ y.stop
  captured : ∀ e ∈ t.captures, (some e.1, e.2) ∈ t.parts.pieces
  ordered : t.parts.pieces.Pairwise fun p q => ∀ x y, p.2.span = some x → q.2.span = some y → x.stop ≤ y.start

lemma Forest.piece_of_capture {f : Forest} : ∀ e ∈ f.captures, (some e.1, e.2) ∈ f.pieces := by
  intro e he
  induction f with
  | nil => cases he
  | token label t rest ih | tree label node parts rest _ ih =>
    cases label with
    | none => exact List.mem_cons_of_mem _ (ih he)
    | some l =>
      rcases mem_of_mem_insertMissing he with rfl | he
      · exact List.mem_cons_self
      · exact List.mem_cons_of_mem _ (ih he)

lemma Tree.spanned {t : Tree} (h : InOrder t.parts.tokens) : t.Spanned := by
  have hspans : Spans t.parts.tokens t.span := Forest.spans h
  have hpiece : ∀ p ∈ t.parts.pieces, p.2.tokens.Sublist t.parts.tokens := fun p hp => Forest.sublist_of_mem_pieces hp
  have hpart : ∀ p ∈ t.parts.pieces, Spans p.2.tokens p.2.span := fun p hp => Capture.spans (h.sublist (hpiece p hp))
  refine ⟨hspans, ?_, Forest.piece_of_capture, ?_⟩
  · intro e he x hx
    have hp := Forest.piece_of_capture e he
    exact (hx ▸ hpart _ hp).nested (hpiece _ hp) hspans h
  · have hapart := h.apart
    rw [Forest.tokens_eq_flatMap, List.pairwise_flatMap] at hapart
    refine hapart.2.imp_of_mem fun {p q} hp hq hpq x y hx hy => ?_
    exact (hx ▸ hpart p hp).apart (hy ▸ hpart q hq) hpq

variable {g : Grammar} {limit : Nat} {sc : Scanner} {s : ScanState} {t m : Tree}

theorem match_spans (hsize : Text.size sc.source.text < 2 ^ 32 - 1) (h : g.Matches limit sc s t)
    (hm : m ∈ t.forest.trees) :
    sc.Yields s t.parts.tokens t.stop ∧ m.parts.tokens <:+: t.parts.tokens ∧ Forest.Fits g m.matched m.parts ∧
      m.Spanned := by
  have horder := h.yields.inOrder (lt_of_lt_of_le hsize (Nat.sub_le _ _))
  have hinfix := Tree.infix_of_node hm
  exact ⟨h.yields, hinfix, (h.isOf hm).fits, Tree.spanned (horder.sublist hinfix.sublist)⟩

def paddedRules : Grammar := .ofRules [
  ⟨"padded", [[.rule "nothing", .token .parenOpen, .ruleAs "value" "inner", .token .parenClose]]⟩,
  ⟨"value", [[.ruleAs "nothing" "before", .tokenAs .integer "digits", .rule "nothing"]]⟩,
  ⟨"nothing", [[]]⟩]

def paddedRun : Run (Option Tree) := attemptRule paddedRules 256 (.glow (.ofText "padded" " ( 12 ) ")) "padded" .start 0

theorem match_spans_padded : Text.size (SourceFile.ofText "padded" " ( 12 ) ").text < 2 ^ 32 - 1 ∧
    ∃ t, paddedRun.result = .ok (some t) ∧
      t.forest.trees.map Tree.span = [some ⟨1, 7⟩, none, some ⟨3, 5⟩, none, none] ∧
      ∀ m ∈ t.forest.trees, m.Spanned := by
  have hsize : Text.size (SourceFile.ofText "padded" " ( 12 ) ").text < 2 ^ 32 - 1 := by decide +kernel
  have hrun : paddedRun.result.toOption.join.map (fun t => t.forest.trees.map Tree.span) =
      some [some ⟨1, 7⟩, none, some ⟨3, 5⟩, none, none] := by decide +kernel
  obtain ⟨t, ht, hspans⟩ := Option.map_eq_some_iff.mp hrun
  have hresult := eq_ok_of_toOption (Option.join_eq_some_iff.mp ht)
  exact ⟨hsize, t, hresult, hspans, fun m hm => (match_spans hsize (.rule hresult) hm).2.2.2⟩

end GlowSyntax
