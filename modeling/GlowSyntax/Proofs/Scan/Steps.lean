import GlowSyntax.Proofs.Scan.Progress

/-!
The number of steps that a scan is given. A scan that is not done after these stands at the end of the text, in a mode
in which it has stood there before, and goes on for ever. So an endless scan is one that no number of steps ends.
-/

namespace GlowSyntax

lemma Mode.recurs {a b c d : Mode} (hab : a = b → b = c) (hac : a = c → b = d) (hbc : b = c → c = d) :
    d = a ∨ d = b ∨ d = c := by
  cases a <;> cases b <;> cases c <;> cases d <;> simp_all

namespace Scanner

structure Strides (size : Nat) (step : ScanState → Except ScanError (Token × ScanState)) : Prop where
  bounds {s t s'} : step s = .ok (t, s') → s.offset ≤ s'.offset ∧ s'.offset ≤ size
  still {s t s'} : step s = .ok (t, s') → s'.offset = s.offset → s.offset = size
  alike {s t s' u} : step s = .ok (t, s') → u.offset = s.offset → u.mode = s.mode →
    ∃ t' u', step u = .ok (t', u') ∧ t'.kind = t.kind ∧ u'.offset = s'.offset ∧ u'.mode = s'.mode

variable {sc : Scanner} {step : ScanState → Except ScanError (Token × ScanState)} {more : Kind → Bool}
  {size n : Nat} {s s' u : ScanState} {t : Token}

lemma offset_of_rest? (h : sc.rest? s = some []) : s.offset = Text.size sc.source.text := by
  rw [rest?_eq] at h
  obtain ⟨taken, htext, hsize⟩ := Text.dropBytes_eq_some_iff.mp h
  rw [htext, List.append_nil, hsize]

lemma read_alike (h : sc.read s = .ok (t, s')) (ho : u.offset = s.offset) (hm : u.mode = s.mode) :
    ∃ t' u', sc.read u = .ok (t', u') ∧ t'.kind = t.kind ∧ u'.offset = s'.offset ∧ u'.mode = s'.mode := by
  obtain ⟨rest, text, hr, hf, -, rfl⟩ := read_eq_ok h
  have hr' : sc.rest? u = some rest := by rw [rest?, ho, ← rest?, hr]
  rw [read, hr', hm]
  simp only [hf]
  refine ⟨_, _, rfl, rfl, ?_, ?_⟩
  · simp only [ScanState.advance, ho]
  · simp only [ScanState.advance, hm]

lemma nextWithin_alike (h : sc.nextWithin n s = .ok (t, s')) (ho : u.offset = s.offset) (hm : u.mode = s.mode) :
    ∃ t' u', sc.nextWithin n u = .ok (t', u') ∧ t'.kind = t.kind ∧ u'.offset = s'.offset ∧ u'.mode = s'.mode := by
  induction n generalizing s u with
  | zero => cases h
  | succ n ih =>
    rw [nextWithin] at h
    split at h
    · cases h
    · next v m hr =>
      obtain ⟨v', m', hr', hkind, ho', hm'⟩ := read_alike hr ho hm
      rw [nextWithin, hr']
      simp only [hkind]
      split at h
      · next htrivia =>
        rw [if_pos htrivia]
        exact ih h ho' hm'
      · next htrivia =>
        cases h
        rw [if_neg htrivia]
        exact ⟨v', m', rfl, hkind, ho', hm'⟩

lemma read_strides : Strides (Text.size sc.source.text) sc.read where
  bounds := read_bounds
  still h ho := offset_of_rest? (read_still h ho).1
  alike := read_alike

lemma next_strides : Strides (Text.size sc.source.text) sc.next where
  bounds := next_bounds
  still {s t s'} h ho := by
    obtain ⟨m, hm, hr⟩ := nextWithin_last h
    have hbefore := hm.offset_le
    have hafter := (read_bounds hr).1
    rw [← offset_of_rest? (read_still hr (by omega)).1]
    omega
  alike := nextWithin_alike

def GoesOn (step : ScanState → Except ScanError (Token × ScanState)) (more : Kind → Bool) : Nat → ScanState → Prop
  | 0, _ => True
  | n + 1, s => ∃ t s', step s = .ok (t, s') ∧ more t.kind ∧ GoesOn step more n s'

namespace Strides

lemma goesOn_end (hstep : Strides size step) (hs : s.offset = size) (h : GoesOn step more 3 s) :
    GoesOn step more 4 s := by
  obtain ⟨t₀, s₁, h₀, hmore₀, t₁, s₂, h₁, hmore₁, t₂, s₃, h₂, hmore₂, -⟩ := h
  have ho₁ : s₁.offset = size := le_antisymm (hstep.bounds h₀).2 (hs ▸ (hstep.bounds h₀).1)
  have ho₂ : s₂.offset = size := le_antisymm (hstep.bounds h₁).2 (ho₁ ▸ (hstep.bounds h₁).1)
  have ho₃ : s₃.offset = size := le_antisymm (hstep.bounds h₂).2 (ho₂ ▸ (hstep.bounds h₂).1)
  have hfollow : ∀ {a b a' b' v w}, step a = .ok (v, a') → step b = .ok (w, b') → a.offset = size →
      b.offset = size → a.mode = b.mode → a'.mode = b'.mode := by
    intro a b a' b' v w ha hb hoa hob hm
    obtain ⟨v', a'', ha'', -, -, hm'⟩ := hstep.alike hb (hoa.trans hob.symm) hm
    rw [ha] at ha''
    cases ha''
    exact hm'
  have hagain : ∀ {a a' v}, step a = .ok (v, a') → a.offset = size → more v.kind → s₃.mode = a.mode →
      GoesOn step more 1 s₃ := by
    intro a a' v ha hoa hmore hm
    obtain ⟨v', u, hu, hkind, -, -⟩ := hstep.alike ha (ho₃.trans hoa.symm) hm
    exact ⟨v', u, hu, hkind ▸ hmore, trivial⟩
  have hlast : GoesOn step more 1 s₃ := by
    rcases Mode.recurs (hfollow h₀ h₁ hs ho₁) (hfollow h₀ h₂ hs ho₂) (hfollow h₁ h₂ ho₁ ho₂) with hm | hm | hm
    · exact hagain h₀ hs hmore₀ hm
    · exact hagain h₁ ho₁ hmore₁ hm
    · exact hagain h₂ ho₂ hmore₂ hm
  exact ⟨t₀, s₁, h₀, hmore₀, t₁, s₂, h₁, hmore₁, t₂, s₃, h₂, hmore₂, hlast⟩

lemma goesOn_succ (hstep : Strides size step) (hn : size - s.offset + Mode.all.length ≤ n)
    (h : GoesOn step more n s) : GoesOn step more (n + 1) s := by
  have hmodes : Mode.all.length = 3 := rfl
  induction n generalizing s with
  | zero => omega
  | succ n ih =>
    obtain ⟨t, s', hs, hmore, hrest⟩ := id h
    have hbounds := hstep.bounds hs
    by_cases hend : s.offset = size
    · rcases Nat.lt_or_ge n 3 with hlt | hge
      · obtain rfl : n = 2 := by omega
        exact hstep.goesOn_end hend h
      · exact ⟨t, s', hs, hmore, ih (by omega) hrest⟩
    · have hmoves : s.offset ≠ s'.offset := fun ho => hend (hstep.still hs ho.symm)
      exact ⟨t, s', hs, hmore, ih (by omega) hrest⟩

end Strides

lemma nextWithin_of_goesOn (h : GoesOn sc.read Kind.isTrivia n s) : sc.nextWithin n s = .error .endless := by
  induction n generalizing s with
  | zero => rfl
  | succ n ih =>
    obtain ⟨t, s', hr, htrivia, hrest⟩ := h
    rw [nextWithin, hr]
    simp only [if_pos htrivia]
    exact ih hrest

lemma nextWithin_succ (h : ¬ GoesOn sc.read Kind.isTrivia n s) : sc.nextWithin (n + 1) s = sc.nextWithin n s := by
  induction n generalizing s with
  | zero => exact absurd trivial h
  | succ n ih =>
    rw [nextWithin, nextWithin]
    split
    · rfl
    · next t s' hr =>
      split
      · next htrivia => exact ih fun hrest => h ⟨t, s', hr, htrivia, hrest⟩
      · rfl

lemma collect_of_goesOn (h : GoesOn step (· != .endOfFile) n s) : collect step n s = .error .endless := by
  induction n generalizing s with
  | zero => rfl
  | succ n ih =>
    obtain ⟨t, s', hr, hmore, hrest⟩ := h
    have ht : ¬ t.isEnd := by simpa [Token.isEnd] using hmore
    rw [collect, hr]
    simp only [if_neg ht, ih hrest]
    rfl

lemma collect_eq_succ (h : ¬ GoesOn step (· != .endOfFile) n s) : collect step (n + 1) s = collect step n s := by
  induction n generalizing s with
  | zero => exact absurd trivial h
  | succ n ih =>
    rw [collect, collect]
    split
    · rfl
    · next t s' hr =>
      split
      · rfl
      · next ht =>
        have hmore : (t.kind != .endOfFile) = true := by simpa [Token.isEnd] using ht
        rw [ih fun hrest => h ⟨t, s', hr, hmore, hrest⟩]

lemma Strides.collect_eq {m : Nat} (hstep : Strides size step) (hm : size - s.offset + Mode.all.length ≤ m)
    (hn : m ≤ n) : collect step n s = collect step m s := by
  induction n, hn using Nat.le_induction with
  | base => rfl
  | succ n hn ih =>
    rw [← ih]
    by_cases h : GoesOn step (· != .endOfFile) n s
    · rw [collect_of_goesOn h, collect_of_goesOn (hstep.goesOn_succ (hm.trans hn) h)]
    · exact collect_eq_succ h

theorem nextWithin_eq_next (hn : sc.steps ≤ n) : sc.nextWithin n s = sc.next s := by
  induction n, hn using Nat.le_induction with
  | base => rfl
  | succ n hn ih =>
    rw [← ih]
    by_cases h : GoesOn sc.read Kind.isTrivia n s
    · have hlonger := read_strides.goesOn_succ ((modes_lt_steps sc s).le.trans hn) h
      rw [nextWithin_of_goesOn h, nextWithin_of_goesOn hlonger]
    · exact nextWithin_succ h

theorem collect_eq_tokenize (hn : sc.steps ≤ n) : collect sc.next n s = sc.tokenize s :=
  next_strides.collect_eq (modes_lt_steps sc s).le hn

theorem collect_eq_tokenizeRaw (hn : sc.steps ≤ n) : collect sc.read n s = sc.tokenizeRaw s :=
  read_strides.collect_eq (modes_lt_steps sc s).le hn

lemma next_eq (sc : Scanner) (s : ScanState) :
    sc.next s = match sc.read s with
      | .error e => .error e
      | .ok (t, s') => if t.kind.isTrivia then sc.next s' else .ok (t, s') := by
  rw [← nextWithin_eq_next (Nat.le_succ _), nextWithin]
  rfl

lemma collect_steps_eq (sc : Scanner) (s : ScanState) :
    sc.tokenize s = match sc.next s with
      | .error e => .error e
      | .ok (t, s') => if t.isEnd then .ok [t] else (sc.tokenize s').map (t :: ·) := by
  rw [← collect_eq_tokenize (Nat.le_succ _), collect]
  rfl

theorem tokenize_eq (sc : Scanner) (s : ScanState) :
    sc.tokenize s = match sc.read s with
      | .error e => .error e
      | .ok (t, s') => if t.kind.isTrivia then sc.tokenize s' else
        if t.isEnd then .ok [t] else (sc.tokenize s').map (t :: ·) := by
  rw [collect_steps_eq, next_eq]
  cases sc.read s with
  | error e => rfl
  | ok r =>
    obtain ⟨t, s'⟩ := r
    dsimp only
    by_cases htrivia : t.kind.isTrivia = true
    · rw [if_pos htrivia, if_pos htrivia]
      exact (collect_steps_eq sc s').symm
    · rw [if_neg htrivia, if_neg htrivia]

end Scanner

end GlowSyntax
