import GlowSyntax.Diagnostic.Drawing
import GlowSyntax.Proofs.Source.Walk

/-!
The lines of a drawing against those of the source. A drawing ends lines at more characters than line breaks, so
from the first of the others on its line numbers are ahead; until then it has the lines of the source.
-/

namespace GlowSyntax.Drawing

def endsAgree : List Char → Bool
  | [] => true
  | '\r' :: '\n' :: cs => endsAgree cs
  | c :: cs => (c = '\n' || !isLineEnd c) && endsAgree cs

inductive Ended : List Char → List (List Char) → List Char → Prop
  | nil : Ended [] [] []
  | pair {cs ls rest} : Ended cs ls rest → Ended ('\r' :: '\n' :: cs) (['\r', '\n'] :: ls) rest
  | single {c cs ls rest} : isLineEnd c = true → (∀ cs', c = '\r' → cs = '\n' :: cs' → False) →
      Ended cs ls rest → Ended (c :: cs) ([c] :: ls) rest
  | last {c cs rest} : isLineEnd c = false → Ended cs [] rest → Ended (c :: cs) [] (c :: rest)
  | more {c cs l ls rest} : isLineEnd c = false → Ended cs (l :: ls) rest → Ended (c :: cs) ((c :: l) :: ls) rest

lemma exists_ended (cs : List Char) : ∃ ls rest, Ended cs ls rest := by
  induction cs using lines.induct with
  | case1 => exact ⟨_, _, .nil⟩
  | case2 cs ih =>
    obtain ⟨ls, rest, h⟩ := ih
    exact ⟨_, _, .pair h⟩
  | case3 c cs hpair hend ih =>
    obtain ⟨ls, rest, h⟩ := ih
    exact ⟨_, _, .single hend hpair h⟩
  | case4 c cs _ hend _ ih | case5 c cs _ hend _ _ _ ih =>
    rw [Bool.not_eq_true] at hend
    obtain ⟨ls, rest, h⟩ := ih
    cases ls with
    | nil => exact ⟨_, _, .last hend h⟩
    | cons l ls => exact ⟨_, _, .more hend h⟩

section

variable {c : Char} {cs l : List Char} {ls : List (List Char)}

lemma ne_carriageReturn (h : isLineEnd c = false) : c ≠ '\r' := by
  rintro rfl
  cases h

lemma ne_lineBreak (h : isLineEnd c = false) : c ≠ '\n' := by
  rintro rfl
  cases h

lemma lines_ended (h : isLineEnd c = true) (hpair : ∀ cs', c = '\r' → cs = '\n' :: cs' → False) :
    lines (c :: cs) = [c] :: lines cs := by
  rw [lines, if_pos h]
  exact hpair

lemma lines_unended_nil (h : isLineEnd c = false) (hcs : lines cs = []) : lines (c :: cs) = [[c]] := by
  rw [lines, if_neg (by simp [h]), hcs]
  exact fun _ hc => absurd hc (ne_carriageReturn h)

lemma lines_unended_cons (h : isLineEnd c = false) (hcs : lines cs = l :: ls) :
    lines (c :: cs) = (c :: l) :: ls := by
  rw [lines, if_neg (by simp [h]), hcs]
  exact fun _ hc => absurd hc (ne_carriageReturn h)

lemma endsAgree_ended (h : isLineEnd c = true) (hpair : ∀ cs', c = '\r' → cs = '\n' :: cs' → False) :
    endsAgree (c :: cs) = (c = '\n' && endsAgree cs) := by
  rw [endsAgree, h]
  · simp
  · exact hpair

lemma endsAgree_unended (h : isLineEnd c = false) : endsAgree (c :: cs) = endsAgree cs := by
  rw [endsAgree, h]
  · simp
  · exact fun _ hc => absurd hc (ne_carriageReturn h)

lemma exists_first_line (c : Char) (cs : List Char) : ∃ l ls, l ≠ [] ∧ lines (c :: cs) = l :: ls := by
  by_cases hpair : ∀ cs', c = '\r' → cs = '\n' :: cs' → False
  · cases hend : isLineEnd c with
    | true => exact ⟨_, _, by simp, lines_ended hend hpair⟩
    | false =>
      cases hcs : lines cs with
      | nil => exact ⟨_, _, by simp, lines_unended_nil hend hcs⟩
      | cons l ls => exact ⟨_, _, by simp, lines_unended_cons hend hcs⟩
  · push Not at hpair
    obtain ⟨cs', rfl, rfl, -⟩ := hpair
    exact ⟨_, _, by simp, rfl⟩

end

namespace Ended

variable {cs rest : List Char} {ls : List (List Char)} (h : Ended cs ls rest)
include h

lemma text_eq : cs = ls.flatten ++ rest := by
  induction h with
  | nil => rfl
  | pair _ ih | single _ _ _ ih | last _ _ ih | more _ _ ih => simpa using ih

lemma lines_append {c : Char} (hc : c ≠ '\n') {after l : List Char} {ms : List (List Char)}
    (hl : lines (c :: after) = l :: ms) : lines (cs ++ c :: after) = ls ++ (rest ++ l) :: ms := by
  induction h with
  | nil => exact hl
  | pair _ ih => simp [lines, ih]
  | @single d cs _ _ hend hpair _ ih =>
    rw [List.cons_append, lines_ended hend, ih]
    · rfl
    · intro cs' hd hcs
      cases cs with
      | nil => exact hc (List.cons.inj hcs).1
      | cons x cs => exact hpair cs hd (by rw [(List.cons.inj hcs).1])
  | last hend _ ih => exact lines_unended_cons hend ih
  | more hend _ ih => exact lines_unended_cons hend ih

lemma count_le : cs.count '\n' ≤ ls.length := by
  induction h with
  | nil => simp
  | pair _ ih => simpa using ih
  | @single c cs _ _ _ _ _ ih =>
    rw [List.count_cons, List.length_cons]
    split <;> omega
  | last hend _ ih => rwa [List.count_cons_of_ne (ne_lineBreak hend)]
  | more hend _ ih => rwa [List.count_cons_of_ne (ne_lineBreak hend)]

lemma count_eq : cs.count '\n' = ls.length ↔ endsAgree cs = true := by
  induction h with
  | nil => simp [endsAgree]
  | pair _ ih => simpa [endsAgree] using ih
  | @single c cs ls _ hend hpair h ih =>
    have hle := h.count_le
    rw [endsAgree_ended hend hpair, Bool.and_eq_true, ← ih]
    by_cases hc : c = '\n'
    · simp [hc]
    · rw [List.count_cons_of_ne hc, List.length_cons]
      simp only [hc, decide_false, Bool.false_eq_true, false_and, iff_false]
      omega
  | last hend _ ih => rwa [List.count_cons_of_ne (ne_lineBreak hend), endsAgree_unended hend]
  | more hend _ ih => rwa [List.count_cons_of_ne (ne_lineBreak hend), endsAgree_unended hend]

lemma lineBreak_not_mem : '\n' ∉ rest := by
  induction h with
  | nil => simp
  | pair _ ih | single _ _ _ ih | more _ _ ih => exact ih
  | last hend _ ih => exact mt List.mem_cons.mp (not_or.mpr ⟨(ne_lineBreak hend).symm, ih⟩)

lemma flatten_eq (hagree : endsAgree cs = true) : ls = [] ∨ ∃ xs, ls.flatten = xs ++ ['\n'] := by
  induction h with
  | nil | last => exact Or.inl rfl
  | pair _ ih =>
    rcases ih hagree with rfl | ⟨xs, hxs⟩
    · exact Or.inr ⟨['\r'], rfl⟩
    · exact Or.inr ⟨'\r' :: '\n' :: xs, by rw [List.flatten_cons, hxs]; rfl⟩
  | @single c _ _ _ hend hpair _ ih =>
    rw [endsAgree_ended hend hpair, Bool.and_eq_true, decide_eq_true_iff] at hagree
    obtain ⟨rfl, hagree⟩ := hagree
    rcases ih hagree with rfl | ⟨xs, hxs⟩
    · exact Or.inr ⟨[], rfl⟩
    · exact Or.inr ⟨'\n' :: xs, by rw [List.flatten_cons, hxs]; rfl⟩
  | @more c _ _ _ _ hend _ ih =>
    rw [endsAgree_unended hend] at hagree
    rcases ih hagree with hnil | ⟨xs, hxs⟩
    · cases hnil
    · exact Or.inr ⟨c :: xs, by rw [List.flatten_cons, List.cons_append, ← List.flatten_cons, hxs]; rfl⟩

lemma column_eq (hagree : endsAgree cs = true) :
    (cs.foldl Position.after .start).column = 1 + rest.length.toUInt32 := by
  have hstart : (ls.flatten.foldl Position.after .start).column = 1 := by
    rcases h.flatten_eq hagree with rfl | ⟨xs, hxs⟩
    · rfl
    · simp [hxs, Position.after]
  rw [h.text_eq, List.foldl_append, Position.foldl_after h.lineBreak_not_mem, hstart]

end Ended

section Numbered

variable {n o : Nat} {l : List Char} {ls ms : List (List Char)}

lemma numberedFrom_append : numberedFrom n o (ls ++ ms) =
    numberedFrom n o ls ++ numberedFrom (n + ls.length) (o + ls.flatten.length) ms := by
  induction ls generalizing n o with
  | nil => rfl
  | cons l ls ih =>
    simp only [List.cons_append, numberedFrom, ih, List.length_cons, List.flatten_cons, List.length_append]
    rw [Nat.add_assoc, Nat.add_comm 1, Nat.add_assoc o]

lemma numberedFrom_bounds : ∀ m ∈ numberedFrom n o ls, n ≤ m.number ∧ o ≤ m.start := by
  induction ls generalizing n o with
  | nil => simp [numberedFrom]
  | cons l ls ih =>
    refine List.forall_mem_cons.mpr ⟨⟨le_rfl, le_rfl⟩, fun m hm => ?_⟩
    obtain ⟨hn, ho⟩ := ih m hm
    omega

lemma lineAt?_of_lines {text : List Char} {offset : Nat} (hlines : lines text = ls ++ l :: ms)
    (hle : ls.flatten.length ≤ offset) (hoffset : offset ≤ text.length) :
    ∃ m, lineAt? text offset = some m ∧ m.start ≤ offset ∧ (m = ⟨ls.length + 1, ls.flatten.length, l⟩ ∨
      ls.length + 1 < m.number ∧ ls.flatten.length + l.length ≤ m.start) := by
  have hnumbered : numbered text = numberedFrom 1 0 ls ++ ⟨ls.length + 1, ls.flatten.length, l⟩ ::
      numberedFrom (ls.length + 1 + 1) (ls.flatten.length + l.length) ms := by
    rw [numbered, hlines, numberedFrom_append, numberedFrom, Nat.add_comm 1, Nat.zero_add]
  rw [lineAt?, if_neg (not_lt.mpr hoffset), hnumbered, List.filter_append,
    List.filter_cons_of_pos (by simpa using hle), List.getLast?_append, List.getLast?_cons, Option.some_or]
  refine ⟨_, rfl, ?_⟩
  cases hlast : ((numberedFrom (ls.length + 1 + 1) (ls.flatten.length + l.length) ms).filter
      (·.start ≤ offset)).getLast? with
  | none => exact ⟨hle, Or.inl rfl⟩
  | some m =>
    obtain ⟨hmem, hstart⟩ := List.mem_filter.mp (List.mem_of_getLast? hlast)
    exact ⟨by simpa using hstart, Or.inr (numberedFrom_bounds m hmem)⟩

end Numbered

lemma lineAt?_eq_position {before after : List Char} {c : Char} {offset : Nat} (hc : c ≠ '\n')
    (hsize : before.length + 1 < UInt32.size) (hle : before.length ≤ offset)
    (hoffset : offset ≤ (before ++ c :: after).length) :
    ∃ m, lineAt? (before ++ c :: after) offset = some m ∧
      ((m.number = (before.foldl Position.after .start).line.toNat ∧
        offset - m.start + 1 = (before.foldl Position.after .start).column.toNat) ↔
        offset = before.length ∧ endsAgree before = true) := by
  obtain ⟨ls, rest, h⟩ := exists_ended before
  obtain ⟨l, ms, hl, hlines⟩ := exists_first_line c after
  have hlength : before.length = ls.flatten.length + rest.length := by
    rw [← List.length_append, ← h.text_eq]
  obtain ⟨m, hm, hstart, hcases⟩ := lineAt?_of_lines (h.lines_append hc hlines) (by omega) hoffset
  refine ⟨m, hm, ?_⟩
  have hcount : before.count '\n' ≤ before.length := List.count_le_length
  have hline : (before.foldl Position.after .start).line.toNat = before.count '\n' + 1 := by
    rw [Position.foldl_after_line]
    exact toNat_succ (by omega)
  have hcolumn (hagree : endsAgree before = true) :
      (before.foldl Position.after .start).column.toNat = rest.length + 1 := by
    rw [h.column_eq hagree]
    exact toNat_succ (by omega)
  rw [hline]
  constructor
  · rintro ⟨hnumber, hplace⟩
    -- There are no fewer lines than in the source up to the character, so the offset is still in its line.
    have hbreaks := h.count_le
    rcases hcases with rfl | ⟨hlater, -⟩
    · have hagree := h.count_eq.mp (le_antisymm hbreaks (Nat.succ_le_succ_iff.mp hnumber.le))
      rw [hcolumn hagree] at hplace
      dsimp only at hplace
      exact ⟨by omega, hagree⟩
    · omega
  · rintro ⟨rfl, hagree⟩
    have hbreaks := h.count_eq.mpr hagree
    have hpos := List.length_pos_iff.mpr hl
    rw [hcolumn hagree]
    rcases hcases with rfl | ⟨-, hlater⟩
    · dsimp only
      omega
    · rw [List.length_append] at hlater
      omega

end GlowSyntax.Drawing
