import GlowSyntax.Proofs.Scan.Read

namespace GlowSyntax.Scanner

inductive Yields (sc : Scanner) : ScanState → List Token → ScanState → Prop
  | nil {s} : Yields sc s [] s
  | cons {s m s' t ts} : sc.next s = .ok (t, m) → Yields sc m ts s' → Yields sc s (t :: ts) s'

namespace Yields

variable {sc : Scanner} {s m s' u : ScanState} {t : Token} {ts us : List Token}

lemma single (h : sc.next s = .ok (t, s')) : Yields sc s [t] s' := .cons h .nil

lemma append (h : Yields sc s ts m) (h' : Yields sc m us s') : Yields sc s (ts ++ us) s' := by
  induction h with
  | nil => exact h'
  | cons hn _ ih => exact .cons hn (ih h')

lemma split (h : Yields sc s (ts ++ us) s') : ∃ m, Yields sc s ts m ∧ Yields sc m us s' := by
  induction ts generalizing s with
  | nil => exact ⟨s, .nil, h⟩
  | cons t ts ih =>
    cases h with
    | cons hn hr =>
      obtain ⟨m, hl, hm⟩ := ih hr
      exact ⟨m, .cons hn hl, hm⟩

lemma snoc (h : Yields sc s ts m) (hn : sc.next m = .ok (t, s')) : Yields sc s (ts ++ [t]) s' :=
  h.append (single hn)

lemma unique (h : Yields sc s ts m) (h' : Yields sc s us u) (hl : ts.length = us.length) :
    ts = us ∧ m = u := by
  induction h generalizing us with
  | nil =>
    obtain rfl : us = [] := List.length_eq_zero_iff.mp hl.symm
    cases h'
    exact ⟨rfl, rfl⟩
  | cons hn _ ih =>
    cases h' with
    | nil => cases hl
    | cons hn' hr' =>
      rw [hn] at hn'
      cases hn'
      obtain ⟨rfl, rfl⟩ := ih hr' (Nat.succ.inj hl)
      exact ⟨rfl, rfl⟩

end Yields

lemma nextWithin_eq_ok {sc : Scanner} {n : Nat} {s s' : ScanState} {t : Token}
    (h : sc.nextWithin n s = .ok (t, s')) :
    ∃ m, sc.read m = .ok (t, s') ∧ s.offset ≤ m.offset := by
  induction n generalizing s with
  | zero => cases h
  | succ n ih =>
    rw [nextWithin] at h
    split at h
    · cases h
    · next u m hr =>
      split at h
      · obtain ⟨v, hv, ho⟩ := ih h
        exact ⟨v, hv, (read_bounds hr).1.trans ho⟩
      · cases h
        exact ⟨s, hr, le_refl _⟩

lemma next_bounds {sc : Scanner} {s s' : ScanState} {t : Token} (h : sc.next s = .ok (t, s')) :
    s.offset ≤ s'.offset ∧ s'.offset ≤ Text.size sc.source.text := by
  obtain ⟨m, hr, ho⟩ := nextWithin_eq_ok h
  exact ⟨ho.trans (read_bounds hr).1, (read_bounds hr).2⟩

lemma Yields.offset_le {sc : Scanner} {s s' : ScanState} {ts : List Token} (h : Yields sc s ts s') :
    s.offset ≤ s'.offset := by
  induction h with
  | nil => exact le_refl _
  | cons hn _ ih => exact (next_bounds hn).1.trans ih

lemma Yields.offset_le_size {sc : Scanner} {s s' : ScanState} {ts : List Token} (h : Yields sc s ts s')
    (hs : s.offset ≤ Text.size sc.source.text) : s'.offset ≤ Text.size sc.source.text := by
  induction h with
  | nil => exact hs
  | cons hn _ ih => exact ih (next_bounds hn).2

lemma peek_eq_ok {sc : Scanner} {s : ScanState} {t : Token} :
    sc.peek s = .ok t ↔ ∃ m, sc.next s = .ok (t, m) := by
  rw [peek]
  cases sc.next s with
  | error e => simp [Except.map]
  | ok r =>
    obtain ⟨u, m⟩ := r
    simp [Except.map]

lemma peek_eq_error {sc : Scanner} {s : ScanState} {e : ScanError} :
    sc.peek s = .error e ↔ sc.next s = .error e := by
  rw [peek]
  cases sc.next s <;> simp [Except.map]

variable {source : SourceFile} {s s' : ScanState} {t : Token} {ts us : List Token}

lemma next_advances (h : (Scanner.glow source).next s = .ok (t, s')) (ht : ¬ t.isEnd) :
    s.offset < s'.offset := by
  obtain ⟨m, hr, ho⟩ := nextWithin_eq_ok h
  exact ho.trans_lt (read_advances hr ht)

lemma next_again (h : (Scanner.glow source).next s = .ok (t, s')) (ht : t.isEnd) :
    (Scanner.glow source).next s' = .ok (t, s') := by
  obtain ⟨m, hr, _⟩ := nextWithin_eq_ok h
  obtain rfl := read_end hr ht
  have hk : t.kind = .endOfFile := by simpa [Token.isEnd] using ht
  have hs : (Scanner.glow source).steps = ((Scanner.glow source).rests.size + 2) + 1 := rfl
  rw [next, hs, nextWithin, hr]
  simp [hk, Kind.isTrivia]

def continued (ts : List Token) (i : Nat) : Option Token := ts[i]?.or ts.getLast?

lemma continued_cons (ht : ts ≠ []) (i : Nat) : continued (t :: ts) (i + 1) = continued ts i := by
  obtain ⟨u, us, rfl⟩ := List.exists_cons_of_ne_nil ht
  simp [continued]

lemma continued_eq {i : Nat} (h : i < ts.length) : continued ts i = ts[i]? := by
  simp [continued, h]

lemma Yields.at_end (h : (Scanner.glow source).next s = .ok (t, s)) (hy : Yields (.glow source) s us s') :
    s' = s := by
  generalize hm : s = m at hy
  induction hy with
  | nil => rfl
  | cons hn _ ih =>
    subst hm
    rw [h] at hn
    cases hn
    exact ih rfl

section Collect

variable {step : ScanState → Except ScanError (Token × ScanState)} {n : Nat}

lemma collect_succ (h : collect step (n + 1) s = .ok ts) :
    ∃ t m, step s = .ok (t, m) ∧
      ((t.isEnd ∧ ts = [t]) ∨ (¬ t.isEnd ∧ ∃ rest, collect step n m = .ok rest ∧ ts = t :: rest)) := by
  rw [collect] at h
  split at h
  · cases h
  · next t m hn =>
    refine ⟨t, m, hn, ?_⟩
    split at h
    · next ht =>
      cases h
      exact Or.inl ⟨ht, rfl⟩
    · next ht =>
      cases hc : collect step n m with
      | error e =>
        rw [hc] at h
        cases h
      | ok rest =>
        rw [hc] at h
        cases h
        exact Or.inr ⟨ht, rest, rfl, rfl⟩

lemma collect_eq_concat (h : collect step n s = .ok ts) : ∃ us t, ts = us ++ [t] ∧ t.isEnd := by
  induction n generalizing s ts with
  | zero => cases h
  | succ n ih =>
    obtain ⟨t, m, _, ⟨ht, rfl⟩ | ⟨_, rest, hc, rfl⟩⟩ := collect_succ h
    · exact ⟨[], t, rfl, ht⟩
    · obtain ⟨us, u, rfl, hu⟩ := ih hc
      exact ⟨t :: us, u, rfl, hu⟩

lemma collect_ne_nil (h : collect step n s = .ok ts) : ts ≠ [] := by
  obtain ⟨us, t, rfl, _⟩ := collect_eq_concat h
  simp

end Collect

lemma collect_of_yields {sc : Scanner} {m : ScanState} {n : Nat} (h : collect sc.next n s = .ok ts)
    (hy : Yields sc s us s') (hus : ∀ u ∈ us, ¬ u.isEnd) (hn : sc.next s' = .ok (t, m)) (ht : t.isEnd) :
    ts = us ++ [t] := by
  induction n generalizing s ts us with
  | zero => cases h
  | succ n ih =>
    obtain ⟨v, m', hv, hcases⟩ := collect_succ h
    cases hy with
    | nil =>
      rw [hn] at hv
      cases hv
      rcases hcases with ⟨_, rfl⟩ | ⟨hne, _⟩
      · rfl
      · exact absurd ht hne
    | cons hu hy =>
      rw [hu] at hv
      cases hv
      rcases hcases with ⟨hend, _⟩ | ⟨_, rest, hc, rfl⟩
      · exact absurd hend (hus v List.mem_cons_self)
      · rw [ih hc hy (fun w hw => hus w (List.mem_cons_of_mem v hw)), List.cons_append]

lemma collect_continued {n : Nat} (h : collect (Scanner.glow source).next n s = .ok ts)
    (hy : Yields (.glow source) s us s') :
    ∃ t m, (Scanner.glow source).next s' = .ok (t, m) ∧ continued ts us.length = some t := by
  induction n generalizing s ts us with
  | zero => cases h
  | succ n ih =>
    obtain ⟨t, m, hn, hcases⟩ := collect_succ h
    cases hy with
    | nil =>
      refine ⟨t, m, hn, ?_⟩
      rcases hcases with ⟨_, rfl⟩ | ⟨_, rest, _, rfl⟩ <;> rfl
    | cons hn' hy =>
      rw [hn] at hn'
      cases hn'
      rcases hcases with ⟨ht, rfl⟩ | ⟨_, rest, hc, rfl⟩
      · have hm := next_again hn ht
        obtain rfl := Yields.at_end hm hy
        exact ⟨t, s', hm, by simp [continued]⟩
      · rw [List.length_cons, continued_cons (collect_ne_nil hc)]
        exact ih hc hy

lemma tokenize_continued (h : (Scanner.glow source).tokenize .start = .ok ts)
    (hy : Yields (.glow source) .start us s) :
    ∃ t m, (Scanner.glow source).next s = .ok (t, m) ∧ continued ts us.length = some t :=
  collect_continued h hy

lemma collect_yields {n : Nat} (hy : Yields (.glow source) s us s') (hn : Text.size source.text - s.offset < n) :
    (∃ ts t, collect (Scanner.glow source).next n s = .ok ts ∧
      (Scanner.glow source).next s' = .ok (t, s') ∧ t.isEnd) ∨
    ∃ k, collect (Scanner.glow source).next n s =
      (collect (Scanner.glow source).next (k + 1) s').map (us ++ ·) := by
  induction hy generalizing n with
  | nil =>
    obtain ⟨k, rfl⟩ := Nat.exists_eq_add_one_of_ne_zero (Nat.ne_zero_of_lt hn)
    refine Or.inr ⟨k, ?_⟩
    cases collect (Scanner.glow source).next (k + 1) _ <;> rfl
  | @cons s m s' t us hnext hy ih =>
    obtain ⟨k, rfl⟩ := Nat.exists_eq_add_one_of_ne_zero (Nat.ne_zero_of_lt hn)
    rw [collect, hnext]
    dsimp only
    by_cases ht : t.isEnd
    · have hagain := next_again hnext ht
      obtain rfl := Yields.at_end hagain hy
      exact Or.inl ⟨[t], t, if_pos ht, hagain, ht⟩
    · have hadvances := next_advances hnext ht
      have hsize : m.offset ≤ Text.size source.text := (next_bounds hnext).2
      rw [if_neg ht]
      rcases ih (n := k) (by omega) with ⟨ts, u, hts, hu⟩ | ⟨j, hj⟩
      · exact Or.inl ⟨t :: ts, u, by rw [hts]; rfl, hu⟩
      · refine Or.inr ⟨j, ?_⟩
        rw [hj]
        cases collect (Scanner.glow source).next (j + 1) s' <;> rfl

section Tokenize

variable (hy : Yields (.glow source) .start us s)
include hy

lemma tokenize_yields :
    (∃ ts t, (Scanner.glow source).tokenize .start = .ok ts ∧ (Scanner.glow source).next s = .ok (t, s) ∧ t.isEnd) ∨
    ∃ k, (Scanner.glow source).tokenize .start =
      (collect (Scanner.glow source).next (k + 1) s).map (us ++ ·) :=
  collect_yields hy (lt_steps (.glow source) .start)

lemma tokenize_of_error {e : ScanError} (he : (Scanner.glow source).next s = .error e) :
    (Scanner.glow source).tokenize .start = .error e := by
  rcases tokenize_yields hy with ⟨_, t, _, hn, _⟩ | ⟨k, hk⟩
  · cases he.symm.trans hn
  · rw [hk, collect, he]
    rfl

lemma tokenize_of_end (hn : (Scanner.glow source).next s = .ok (t, s')) (ht : t.isEnd) :
    ∃ ts, (Scanner.glow source).tokenize .start = .ok ts := by
  rcases tokenize_yields hy with ⟨ts, _, hts, _⟩ | ⟨k, hk⟩
  · exact ⟨ts, hts⟩
  · refine ⟨us ++ [t], ?_⟩
    rw [hk, collect, hn]
    simp [ht, Except.map]

end Tokenize

end GlowSyntax.Scanner
