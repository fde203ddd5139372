import GlowSyntax.Proofs.Scan.Located

/-!
Progress of scanning. A token moves the offset on unless it has no text, and only at the end of the text can it
have none. So scanning comes to an end, except where it finds there something else than the end of file.
-/

namespace GlowSyntax

namespace Scanner

/-- At the end of the text something else than the end of file is found. -/
def Stalls (sc : Scanner) (s : ScanState) : Prop :=
  sc.rest? s = some [] ∧ ∃ k, k ≠ .endOfFile ∧ sc.lexicon.find [] s.mode.candidates = .ok (some (k, []))

variable {sc : Scanner} {s m s' : ScanState} {t : Token}

lemma not_stalls_of_find (h : ∀ m : Mode, sc.lexicon.find [] m.candidates = .ok (some (.endOfFile, []))) :
    ¬ sc.Stalls s := by
  rintro ⟨-, k, hk, hf⟩
  rw [h s.mode] at hf
  cases hf
  exact hk rfl

lemma glow_not_stalls {source : SourceFile} : ¬ (Scanner.glow source).Stalls s :=
  not_stalls_of_find Lexicon.find_nil

lemma Stalls.read (h : sc.Stalls s) : ∃ t s', sc.read s = .ok (t, s') ∧ s'.offset = s.offset ∧ ¬ t.isEnd := by
  obtain ⟨hr, k, hk, hf⟩ := h
  rw [Scanner.read, hr]
  simp only [hf]
  exact ⟨_, _, rfl, rfl, by simpa [Token.isEnd] using hk⟩

lemma read_still (h : sc.read s = .ok (t, s')) (ho : s'.offset = s.offset) :
    sc.rest? s = some [] ∧ sc.lexicon.find [] s.mode.candidates = .ok (some (t.kind, [])) := by
  obtain ⟨rest, text, hr, hf, -, rfl⟩ := read_eq_ok h
  obtain ⟨-, _, -, hp⟩ := Lexicon.find_eq_some hf
  cases text with
  | nil =>
    obtain rfl : rest = [] := (Spelling.prefixOf?_eq_some hp).2 rfl
    exact ⟨hr, hf⟩
  | cons c cs =>
    have hc := c.utf8Size_pos
    simp only [ScanState.advance, Text.size_cons] at ho
    omega

lemma read_moves (h : sc.read s = .ok (t, s')) (ht : ¬ t.isEnd) (hs : ¬ sc.Stalls s) : s.offset < s'.offset := by
  refine lt_of_le_of_ne (read_bounds h).1 fun ho => hs ?_
  obtain ⟨hr, hf⟩ := read_still h ho.symm
  exact ⟨hr, t.kind, by simpa [Token.isEnd] using ht, hf⟩

lemma read_ne_endless : sc.read s ≠ .error .endless := by
  rw [read]
  split
  · simp
  · split <;> simp [unexpected]

lemma nextWithin_last {n : Nat} (h : sc.nextWithin n s = .ok (t, s')) :
    ∃ m, sc.Leads s m ∧ sc.read m = .ok (t, s') := by
  induction n generalizing s with
  | zero => cases h
  | succ n ih =>
    rw [nextWithin] at h
    split at h
    · cases h
    · next u m hr =>
      split at h
      · obtain ⟨v, hv, hread⟩ := ih h
        exact ⟨v, .head ⟨u, hr⟩ hv, hread⟩
      · cases h
        exact ⟨s, .refl, hr⟩

lemma next_moves (h : sc.next s = .ok (t, s')) (ht : ¬ t.isEnd) (hs : ∀ m, sc.Leads s m → ¬ sc.Stalls m) :
    s.offset < s'.offset := by
  obtain ⟨m, hm, hr⟩ := nextWithin_last h
  exact hm.offset_le.trans_lt (read_moves hr ht (hs m hm))

-- By induction on `n`, with what is left of the text below it.
lemma nextWithin_ne_endless {n : Nat} (hs : ∀ m, sc.Leads s m → ¬ sc.Stalls m)
    (hn : Text.size sc.source.text - s.offset < n) : sc.nextWithin n s ≠ .error .endless := by
  induction n generalizing s with
  | zero => exact absurd hn (Nat.not_lt_zero _)
  | succ n ih =>
    rw [nextWithin]
    split
    · next e hr =>
      rintro ⟨⟩
      exact read_ne_endless hr
    · next t s' hr =>
      split
      · next htrivia =>
        have ht : ¬ t.isEnd := by
          intro hk
          have hkind : t.kind = .endOfFile := by simpa [Token.isEnd] using hk
          rw [hkind] at htrivia
          cases htrivia
        have hmoves := read_moves hr ht (hs s .refl)
        have hsize := (read_bounds hr).2
        exact ih (fun m hm => hs m (.head ⟨t, hr⟩ hm)) (by omega)
      · simp

lemma next_ne_endless (hs : ∀ m, sc.Leads s m → ¬ sc.Stalls m) : sc.next s ≠ .error .endless :=
  nextWithin_ne_endless hs (lt_steps sc s)

lemma collect_ne_endless {step : ScanState → Except ScanError (Token × ScanState)} {P : ScanState → Prop}
    {size n : Nat} (hstep : ∀ s, P s → step s ≠ .error .endless)
    (hmoves : ∀ s t s', P s → step s = .ok (t, s') → ¬ t.isEnd → P s' ∧ s.offset < s'.offset ∧ s'.offset ≤ size)
    (hs : P s) (hn : size - s.offset < n) : collect step n s ≠ .error .endless := by
  induction n generalizing s with
  | zero => exact absurd hn (Nat.not_lt_zero _)
  | succ n ih =>
    rw [collect]
    split
    · next e he =>
      rintro ⟨⟩
      exact hstep s hs he
    · next t s' hr =>
      split
      · simp
      · next ht =>
        obtain ⟨hs', hlt, hle⟩ := hmoves s t s' hs hr ht
        have hrest := ih hs' (by omega)
        cases hc : collect step n s' with
        | ok ts => simp [Except.map]
        | error e =>
          rintro ⟨⟩
          exact hrest hc

lemma tokenize_ne_endless (hs : ∀ m, sc.Leads s m → ¬ sc.Stalls m) : sc.tokenize s ≠ .error .endless := by
  refine collect_ne_endless (P := fun s => ∀ m, sc.Leads s m → ¬ sc.Stalls m)
    (fun s hs => next_ne_endless hs) ?_ hs (lt_steps sc s)
  intro s t s' hs hn ht
  exact ⟨fun m hm => hs m ((next_leads hn).trans hm), next_moves hn ht hs, (next_bounds hn).2⟩

lemma tokenizeRaw_ne_endless (hs : ∀ m, sc.Leads s m → ¬ sc.Stalls m) : sc.tokenizeRaw s ≠ .error .endless := by
  refine collect_ne_endless (P := fun s => ∀ m, sc.Leads s m → ¬ sc.Stalls m)
    (fun s _ => read_ne_endless) ?_ hs (lt_steps sc s)
  intro s t s' hs hr ht
  exact ⟨fun m hm => hs m (.head ⟨t, hr⟩ hm), read_moves hr ht (hs s .refl), (read_bounds hr).2⟩

theorem scan_progresses (sc : Scanner) (s : ScanState) :
    ((∀ t s', sc.read s = .ok (t, s') → s.offset < s'.offset ∨ t.isEnd) ↔ ¬ sc.Stalls s) ∧
    ((∀ m, sc.Leads s m → ¬ sc.Stalls m) → sc.next s ≠ .error .endless ∧ sc.peek s ≠ .error .endless ∧
      sc.tokenize s ≠ .error .endless ∧ sc.tokenizeRaw s ≠ .error .endless) := by
  refine ⟨⟨fun h hs => ?_, fun hs t s' hr => ?_⟩, fun hs => ?_⟩
  · obtain ⟨t, s', hr, ho, ht⟩ := hs.read
    rcases h t s' hr with hlt | hend
    · exact absurd ho hlt.ne'
    · exact ht hend
  · by_cases ht : t.isEnd
    · exact Or.inr ht
    · exact Or.inl (read_moves hr ht hs)
  · have hnext := next_ne_endless hs
    exact ⟨hnext, fun hp => hnext (peek_eq_error.mp hp), tokenize_ne_endless hs, tokenizeRaw_ne_endless hs⟩

def lowerCase : Scanner where
  lexicon := ((Lexicon.glow.insertRegex .identifier "[a-z]*").toOption).getD .empty
  source := .ofText "lower" "var x = \"y"
  complete := by decide +kernel

theorem scan_progresses_lowerCase :
    (∀ m, lowerCase.Leads .start m → ¬ lowerCase.Stalls m) ∧ lowerCase.tokenize .start ≠ .error .endless := by
  have hs : ∀ m, lowerCase.Leads .start m → ¬ lowerCase.Stalls m :=
    fun _ _ => not_stalls_of_find fun m => by cases m <;> decide +kernel
  exact ⟨hs, ((scan_progresses lowerCase .start).2 hs).2.2.1⟩

def folding : Scanner where
  lexicon := ((Lexicon.glow.insertRegex .endOfLine "\\n*").toOption).getD .empty
  source := .ofText "folding" "a"
  complete := by decide +kernel

lemma folding_read (hs : s.offset = 1) (hm : s.mode = .code) :
    folding.read s = .ok (⟨.endOfLine, "", s.pos, .ofOffsets 1 1, "folding"⟩, ⟨1, s.line + 1, 1, .code⟩) := by
  have hrest : folding.rest? s = some [] := by
    rw [rest?, hs]
    decide +kernel
  have hfind : folding.lexicon.find [] Mode.code.candidates = .ok (some (.endOfLine, [])) := by decide +kernel
  rw [read, hrest, hm]
  simp only [hfind, ScanState.advance, hs, hm]
  rfl

theorem folding_endless :
    ∃ s, folding.Leads .start s ∧ folding.Stalls s ∧ ∀ n, folding.nextWithin n s = .error .endless := by
  have hname : folding.read .start =
      .ok (⟨.identifier, "a", ⟨1, 1⟩, .ofOffsets 0 1, "folding"⟩, ⟨1, 1, 2, .code⟩) := by decide +kernel
  refine ⟨⟨1, 1, 2, .code⟩, .single ⟨_, hname⟩, ⟨by decide +kernel, .endOfLine, by decide, by decide +kernel⟩, ?_⟩
  have hendless : ∀ n s, s.offset = 1 → s.mode = .code → folding.nextWithin n s = .error .endless := by
    intro n
    induction n with
    | zero =>
      intro s _ _
      rfl
    | succ n ih =>
      intro s hs hm
      rw [nextWithin, folding_read hs hm]
      exact ih _ rfl rfl
  exact fun n => hendless n _ rfl rfl

end Scanner

end GlowSyntax
