import GlowSyntax.Proofs.Scan.Progress

namespace GlowSyntax

/-- What can come of reading on from a state instead of a token. Only the first is an error that is returned: an
endless scan does not return, and from a state off the text or inside a character nothing is read at all. -/
inductive ScanError.ComesFrom (sc : Scanner) (s : ScanState) : ScanError → Prop
  | unexpected {file pos span ch} : ComesFrom sc s (.unexpected file pos span ch)
  | endless {m} : sc.Leads s m → sc.Stalls m → ComesFrom sc s .endless
  | misplaced : sc.rest? s = none → ComesFrom sc s .misplaced

namespace Scanner

variable {sc : Scanner} {s m s' : ScanState} {t : Token} {e : ScanError} {n : Nat}

lemma spelled (sc : Scanner) {m : Mode} {k : Kind} (hk : k ∈ m.candidates) : (sc.lexicon.spelling? k).isSome := by
  have hall : k ∈ Mode.allCandidates := List.mem_flatMap.mpr ⟨m, by cases m <;> decide, hk⟩
  have hnone := List.find?_eq_none.mp sc.complete k hall
  simpa [Option.isSome_iff_ne_none] using hnone

lemma read_eq_error (h : sc.read s = .error e) :
    (e = .misplaced ∧ sc.rest? s = none) ∨ ∃ rest, e = sc.unexpected s rest := by
  rw [read] at h
  split at h
  · next hr =>
    cases h
    exact Or.inl ⟨rfl, hr⟩
  · next rest hr =>
    split at h
    · next e' hf => exact absurd hf (Lexicon.find_ne_error_of_spelled fun _ => sc.spelled)
    · cases h
      exact Or.inr ⟨rest, rfl⟩
    · cases h

lemma rest?_of_read (h : sc.read s = .ok (t, s')) : (sc.rest? s').isSome := by
  obtain ⟨rest, text, hr, hf, -, rfl⟩ := read_eq_ok h
  obtain ⟨after, rfl⟩ := Lexicon.text_prefix_of_find hf
  rw [rest?_eq] at hr
  obtain ⟨taken, htext, hsize⟩ := Text.dropBytes_eq_some_iff.mp hr
  have hafter : Text.dropBytes sc.source.text (s.offset + Text.size text) = some after := by
    refine Text.dropBytes_eq_some_iff.mpr ⟨taken ++ text, ?_, ?_⟩
    · rw [htext, List.append_assoc]
    · rw [Text.size_append, hsize]
  rw [rest?_eq, ScanState.advance, hafter]
  rfl

lemma Leads.rest? (h : sc.Leads s m) (hs : (sc.rest? s).isSome) : (sc.rest? m).isSome := by
  induction h with
  | refl => exact hs
  | tail _ hr _ =>
    obtain ⟨t, hr⟩ := hr
    exact rest?_of_read hr

lemma rest?_start : (sc.rest? .start).isSome := by
  rw [rest?_eq, ScanState.start, Text.dropBytes_zero]
  rfl

lemma comesFrom_of_leads (h : sc.Leads s m) (he : e.ComesFrom sc m) : e.ComesFrom sc s := by
  cases he with
  | unexpected => exact .unexpected
  | endless hm hs => exact .endless (h.trans hm) hs
  | misplaced hm =>
    refine .misplaced (Option.not_isSome_iff_eq_none.mp fun hs => ?_)
    have hplaced := h.rest? hs
    rw [hm] at hplaced
    cases hplaced

lemma read_comesFrom (h : sc.read s = .error e) : e.ComesFrom sc s := by
  rcases read_eq_error h with ⟨rfl, hr⟩ | ⟨rest, rfl⟩
  · exact .misplaced hr
  · exact .unexpected

def Raises (sc : Scanner) (s : ScanState) (e : ScanError) : Prop := ∃ m, sc.Leads s m ∧ sc.read m = .error e

lemma Raises.comesFrom (h : sc.Raises s e) : e.ComesFrom sc s := by
  obtain ⟨m, hm, hr⟩ := h
  exact comesFrom_of_leads hm (read_comesFrom hr)

lemma Raises.of_leads (hm : sc.Leads s m) (h : sc.Raises m e) : sc.Raises s e := by
  obtain ⟨m', hm', hr⟩ := h
  exact ⟨m', hm.trans hm', hr⟩

lemma nextWithin_error (h : sc.nextWithin n s = .error e) : e = .endless ∨ sc.Raises s e := by
  induction n generalizing s with
  | zero =>
    cases h
    exact Or.inl rfl
  | succ n ih =>
    rw [nextWithin] at h
    split at h
    · next e' hr =>
      cases h
      exact Or.inr ⟨s, .refl, hr⟩
    · next t s' hr =>
      split at h
      · exact (ih h).imp_right (.of_leads (.single ⟨t, hr⟩))
      · cases h

lemma exists_stalls (h : (∀ m, sc.Leads s m → ¬ sc.Stalls m) → False) : ScanError.endless.ComesFrom sc s := by
  by_contra hno
  exact h fun m hm hs => hno (.endless hm hs)

lemma next_comesFrom (h : sc.next s = .error e) : e.ComesFrom sc s := by
  rcases nextWithin_error h with rfl | he
  · exact exists_stalls fun hs => next_ne_endless hs h
  · exact he.comesFrom

lemma collect_error (h : collect sc.next n s = .error e) : e = .endless ∨ sc.Raises s e := by
  induction n generalizing s with
  | zero =>
    cases h
    exact Or.inl rfl
  | succ n ih =>
    rw [collect] at h
    split at h
    · next e' hn =>
      cases h
      exact nextWithin_error hn
    · next t s' hn =>
      split at h
      · cases h
      · cases hc : collect sc.next n s' with
        | ok ts =>
          rw [hc] at h
          cases h
        | error e' =>
          rw [hc] at h
          cases h
          exact (ih hc).imp_right (.of_leads (next_leads hn))

lemma tokenize_comesFrom (h : sc.tokenize s = .error e) : e.ComesFrom sc s := by
  rcases collect_error h with rfl | he
  · exact exists_stalls fun hs => tokenize_ne_endless hs h
  · exact he.comesFrom

end Scanner

end GlowSyntax
