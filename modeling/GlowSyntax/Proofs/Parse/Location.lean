import GlowSyntax.Diagnostic.Report
import GlowSyntax.Proofs.Match.Record
import GlowSyntax.Proofs.Match.TokenList
import GlowSyntax.Proofs.Parse.Outcome

namespace GlowSyntax

structure Run.Furthest (x : Run (Option Tree)) (m : Nat) : Prop where
  failure_le : ∀ f ∈ failuresOf x.log, f.depth ≤ m
  tree_le : ∀ t, x.result = .ok (some t) → t.depth ≤ m
  reached : m = 0 ∨ (∃ f ∈ failuresOf x.log, f.depth = m) ∨ ∃ t, x.result = .ok (some t) ∧ t.depth = m

variable {sc : Scanner} {tokens : Nat → Option Token}

lemma Failure.Met.listed {f : Failure} (hl : sc.Lists tokens) (h : f.Met sc .start 0) :
    tokens f.depth = some f.found := by
  obtain ⟨ts, s', hy, hd⟩ := h
  obtain ⟨m, hts, hfound⟩ := hy.split
  cases hfound with
  | cons hn _ =>
    rw [hd, Nat.zero_add]
    exact hl ts m f.found _ hts hn

section Kept

variable {x : Run (Option Tree)} {f : Failure} {fs : List Failure} {tree : Tree}

lemma furthest_kept (hf : f ∈ (x.record .empty).attempts) (ht : ∀ t, x.result = .ok (some t) → t.depth ≤ f.depth) :
    x.Furthest f.depth := by
  have hk := FailureRecord.keeps_addAll (failuresOf x.log)
  obtain ⟨hm, hd⟩ := hk.mem_attempts.mp hf
  exact ⟨hk.depth_le hd, ht, Or.inr (Or.inl ⟨f, hm, rfl⟩)⟩

lemma failures_eq_nil (h : (x.record .empty).attempts = []) : failuresOf x.log = [] := by
  have hk := FailureRecord.keeps_addAll (failuresOf x.log)
  refine List.eq_nil_iff_forall_not_mem.mpr fun f hf => ?_
  obtain ⟨n, hn, -⟩ := hk.deepest_of_mem hf
  obtain ⟨f', hf', -⟩ := hk.exists_deepest hn
  exact List.ne_nil_of_mem hf' h

lemma exists_further {d : Nat} (h : (x.record .empty).deepest.any (d < ·) = true) :
    ∃ f rest, (x.record .empty).attempts = f :: rest ∧ d < f.depth := by
  have hk := FailureRecord.keeps_addAll (failuresOf x.log)
  obtain ⟨n, hn, hlt⟩ := (Option.any_eq_true _ _).mp h
  obtain ⟨f', hf', -⟩ := hk.exists_deepest hn
  obtain ⟨f, rest, hat⟩ := List.exists_cons_of_ne_nil (List.ne_nil_of_mem hf')
  have hd := (hk.mem_attempts.mp (hat ▸ List.mem_cons_self)).2
  refine ⟨f, rest, hat, ?_⟩
  rw [← Option.some.inj (hn.symm.trans hd)]
  exact of_decide_eq_true hlt

lemma furthest_tree (hr : x.result = .ok (some tree)) (h : (x.record .empty).deepest.any (tree.depth < ·) = false) :
    x.Furthest tree.depth where
  failure_le f hf := by
    obtain ⟨n, hn, hle⟩ := (FailureRecord.keeps_addAll (failuresOf x.log)).deepest_of_mem hf
    rw [Run.record, hn, Option.any_some, decide_eq_false_iff_not] at h
    omega
  tree_le t ht := by
    cases hr.symm.trans ht
    exact le_refl _
  reached := Or.inr (Or.inr ⟨tree, hr, rfl⟩)

end Kept

section Tokenized

variable {source : SourceFile} {ts us : List Token} {s : ScanState}
  (hts : (Scanner.glow source).tokenize .start = .ok ts)
include hts

lemma peek_listed (hy : (Scanner.glow source).Yields .start us s) :
    ∃ t, (Scanner.glow source).peek s = .ok t ∧ Scanner.continued ts us.length = some t := by
  obtain ⟨t, m, hn, ht⟩ := Scanner.tokenize_continued hts hy
  exact ⟨t, Scanner.peek_eq_ok.mpr ⟨m, hn⟩, ht⟩

lemma error_at_furthest {p : Parser} {start : String} {err : ParseError}
    (h : (p.parse source start).result = .error err)
    (hended : ∀ e, (p.attempt (.glow source) .start start).result ≠ .error e) :
    ∃ m t, Scanner.continued ts m = some t ∧ err.span? = some t.span ∧
      (p.attempt (.glow source) .start start).Furthest m := by
  have hkept : ∀ f ∈ ((p.attempt (.glow source) .start start).record .empty).attempts,
      Scanner.continued ts f.depth = some f.found := by
    intro f hf
    have hm := ((FailureRecord.keeps_addAll _).mem_attempts.mp hf).1
    exact ((attemptRule_extent start .start 0).failures f hm).listed (lists_continued hts)
  have hstop : ∀ tree, (p.attempt (.glow source) .start start).result = .ok (some tree) →
      ∃ t, (Scanner.glow source).peek tree.stop = .ok t ∧ Scanner.continued ts tree.depth = some t := by
    intro tree hr
    obtain ⟨-, ha⟩ := (attemptRule_extent start .start 0).result _ hr
    rw [ha.depth_eq, Nat.zero_add]
    exact peek_listed hts ha.yields
  obtain ⟨t₀, hpeek, ht₀⟩ := peek_listed hts .nil
  have ho := p.outcome_parseFrom (.glow source) .start start
  rw [Parser.parse] at h
  rw [h] at ho
  cases ho with
  | ended hr => exact absurd hr (hended _)
  | unread _ hp => cases hpeek.symm.trans hp
  | noMatch hr hp =>
    obtain rfl := Except.ok.inj (hpeek.symm.trans hp)
    have hno : ∀ m tree, (p.attempt (.glow source) .start start).result = .ok (some tree) → tree.depth ≤ m :=
      fun m tree ht => by cases hr.symm.trans ht
    cases hat : ((p.attempt (.glow source) .start start).record .empty).attempts with
    | nil => exact ⟨0, t₀, ht₀, rfl, by simp [failures_eq_nil hat], hno 0, Or.inl rfl⟩
    | cons f rest =>
      have hf : f ∈ ((p.attempt (.glow source) .start start).record .empty).attempts := hat ▸ List.mem_cons_self
      exact ⟨f.depth, f.found, hkept f hf, rfl, furthest_kept hf (hno f.depth)⟩
  | restUnread hr _ hp =>
    obtain ⟨t, ht, -⟩ := hstop _ hr
    cases ht.symm.trans hp
  | @trailing tree t hr _ hp _ =>
    obtain ⟨t', ht', hplace⟩ := hstop tree hr
    obtain rfl := Except.ok.inj (ht'.symm.trans hp)
    cases hd : ((p.attempt (.glow source) .start start).record .empty).deepest.any (tree.depth < ·) with
    | false => exact ⟨tree.depth, t', hplace, rfl, furthest_tree hr hd⟩
    | true =>
      obtain ⟨f, rest, hat, hlt⟩ := exists_further hd
      have hf : f ∈ ((p.attempt (.glow source) .start start).record .empty).attempts := hat ▸ List.mem_cons_self
      refine ⟨f.depth, f.found, hkept f hf, ?_, furthest_kept hf ?_⟩
      · rw [if_pos rfl, hat]
        rfl
      · intro t ht
        cases hr.symm.trans ht
        exact hlt.le

end Tokenized

end GlowSyntax
