import GlowSyntax.Source.Table
import Mathlib.Data.List.Infix

/-!
Line ends are normalised in one pass, which drops one carriage return before each line break. So a text comes out
without carriage returns before line breaks exactly if no two of them stood before one.
-/

namespace GlowSyntax

section Normalize

variable {c : Char} {cs xs rest : List Char}

lemma not_prefix_of_unmatched (h : ∀ ds, c = '\r' → cs = '\n' :: ds → False) : ¬ ['\r', '\n'] <+: c :: cs := by
  rintro ⟨ds, hds⟩
  obtain ⟨rfl, rfl⟩ := List.cons.inj hds
  exact h ds rfl rfl

lemma normalizeLineEnds_cons (h : ¬ ['\r', '\n'] <+: c :: cs) :
    normalizeLineEnds (c :: cs) = c :: normalizeLineEnds cs := by
  rw [normalizeLineEnds]
  rintro ds rfl rfl
  exact h (List.prefix_append ['\r', '\n'] ds)

lemma normalizeLineEnds_append (h : ¬ ['\n'] <+: rest) :
    normalizeLineEnds (xs ++ rest) = normalizeLineEnds xs ++ normalizeLineEnds rest := by
  induction xs using normalizeLineEnds.induct with
  | case1 cs ih => simp [normalizeLineEnds, ih]
  | case2 c cs hno ih =>
    have hcs := not_prefix_of_unmatched hno
    have hrest : ¬ ['\r', '\n'] <+: c :: (cs ++ rest) := by
      cases cs with
      | nil => simp [h]
      | cons d ds => simpa using hcs
    rw [List.cons_append, normalizeLineEnds_cons hrest, normalizeLineEnds_cons hcs, ih, List.cons_append]
  | case3 => rfl

lemma exists_normalizeLineEnds_break (h : '\n' ∉ xs) :
    ∃ ys, '\n' ∉ ys ∧ normalizeLineEnds (xs ++ '\n' :: rest) = ys ++ '\n' :: normalizeLineEnds rest := by
  induction xs using normalizeLineEnds.induct with
  | case1 cs => simp at h
  | case2 c cs hno ih =>
    obtain ⟨hc, hcs⟩ := not_or.mp (mt List.mem_cons.mpr h)
    by_cases hlost : ['\r', '\n'] <+: c :: (cs ++ '\n' :: rest)
    · cases cs with
      | nil =>
        obtain ⟨rfl, -⟩ := List.cons_prefix_cons.mp hlost
        exact ⟨[], by simp, by simp [normalizeLineEnds]⟩
      | cons d ds => exact absurd (by simpa using hlost) (not_prefix_of_unmatched hno)
    · obtain ⟨ys, hys, heq⟩ := ih hcs
      refine ⟨c :: ys, by simp [hc, hys], ?_⟩
      rw [List.cons_append, normalizeLineEnds_cons hlost, heq, List.cons_append]
  | case3 => exact ⟨[], by simp, normalizeLineEnds_cons (by simp)⟩

lemma prefix_normalizeLineEnds_iff :
    ['\n'] <+: normalizeLineEnds cs ↔ ['\n'] <+: cs ∨ ['\r', '\n'] <+: cs := by
  cases cs using normalizeLineEnds.fun_cases with
  | case1 cs => simp [normalizeLineEnds]
  | case2 c cs hno =>
    have hcs := not_prefix_of_unmatched hno
    rw [normalizeLineEnds_cons hcs, or_iff_left hcs]
    simp
  | case3 => simp [normalizeLineEnds]

lemma infix_normalizeLineEnds_iff :
    ['\r', '\n'] <:+: normalizeLineEnds cs ↔ ['\r', '\r', '\n'] <:+: cs := by
  induction cs using normalizeLineEnds.induct with
  | case1 cs ih => simp [normalizeLineEnds, List.infix_cons_iff, ih]
  | case2 c cs hno ih =>
    have hcs := not_prefix_of_unmatched hno
    rw [normalizeLineEnds_cons hcs, List.infix_cons_iff, List.infix_cons_iff, ih]
    rw [List.cons_prefix_cons] at hcs
    rw [List.cons_prefix_cons, List.cons_prefix_cons, prefix_normalizeLineEnds_iff]
    tauto
  | case3 => simp [normalizeLineEnds]

lemma normalizeLineEnds_eq_self_iff : normalizeLineEnds cs = cs ↔ ¬ ['\r', '\n'] <:+: cs := by
  induction cs using normalizeLineEnds.induct with
  | case1 cs => simp [normalizeLineEnds, List.infix_cons_iff]
  | case2 c cs hno ih =>
    have hcs := not_prefix_of_unmatched hno
    rw [normalizeLineEnds_cons hcs, List.infix_cons_iff, or_iff_right hcs, ← ih]
    simp
  | case3 => simp [normalizeLineEnds]

end Normalize

namespace SourceFile

variable {name contents : String}

lemma ofText_contents_eq_iff :
    ofText name (ofText name contents).contents = ofText name contents ↔
      ¬ ['\r', '\n'] <:+: (ofText name contents).text := by
  rw [← normalizeLineEnds_eq_self_iff]
  simp [ofText, SourceFile.contents]

theorem lineEnds_normalized_iff (name contents : String) :
    (¬ ['\r', '\n'] <:+: (ofText name contents).text ↔ ¬ ['\r', '\r', '\n'] <:+: contents.toList) ∧
    ((ofText name (ofText name contents).contents = ofText name contents ∧
      (ofText name (ofText name contents).contents).lineStarts = (ofText name contents).lineStarts) ↔
        ¬ ['\r', '\r', '\n'] <:+: contents.toList) := by
  have hinfix : ['\r', '\n'] <:+: (ofText name contents).text ↔ ['\r', '\r', '\n'] <:+: contents.toList :=
    infix_normalizeLineEnds_iff
  refine ⟨not_congr hinfix, ?_⟩
  rw [← hinfix, ← ofText_contents_eq_iff]
  exact ⟨And.left, fun h => ⟨h, by rw [h]⟩⟩

/-- The pass ends at the line break and does not see that a carriage return is in front of it again. -/
theorem carriageReturn_left :
    ['\r', '\n'] <:+: (ofText "t" "a\r\r\nb").text ∧
    ofText "t" (ofText "t" "a\r\r\nb").contents ≠ ofText "t" "a\r\r\nb" ∧
    (ofText "t" (ofText "t" "a\r\r\nb").contents).lineStarts ≠ (ofText "t" "a\r\r\nb").lineStarts := by
  decide +kernel

end SourceFile

end GlowSyntax
