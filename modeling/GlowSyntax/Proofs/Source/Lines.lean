import GlowSyntax.Proofs.Source.Walk
import GlowSyntax.Source.Table
import Mathlib.Algebra.Group.Nat.Defs
import Mathlib.Data.List.DropRight

namespace GlowSyntax

lemma Position.compare_eq_lt {p q : Position} :
    compare p q = .lt ↔ p.line < q.line ∨ p.line = q.line ∧ p.column < q.column := by
  obtain ⟨a, b⟩ := p
  obtain ⟨c, d⟩ := q
  change (compare a c).then ((compare b d).then .eq) = .lt ↔ _
  rw [Ordering.then_eq, Ordering.then_eq_lt, Std.compare_eq_lt, Std.compare_eq_lt, Std.compare_eq_iff_eq]

section LastLine

variable {cs xs ys lead last : List Char} {n k : Nat}

def lastLine (cs : List Char) : List Char := cs.rtakeWhile (· ≠ '\n')

lemma lastLine_break (cs : List Char) : lastLine (cs ++ ['\n']) = [] :=
  List.rtakeWhile_concat_neg _ _ _ (by simp)

lemma lastLine_concat {c : Char} (h : c ≠ '\n') : lastLine (cs ++ [c]) = lastLine cs ++ [c] :=
  List.rtakeWhile_concat_pos _ _ _ (by simpa using h)

lemma lastLine_append (h : '\n' ∉ last) : lastLine (cs ++ last) = lastLine cs ++ last := by
  induction last using List.reverseRecOn with
  | nil => simp
  | append_singleton last c ih =>
    obtain ⟨hlast, hc⟩ := not_or.mp (mt List.mem_append.mpr h)
    rw [← List.append_assoc, lastLine_concat (Ne.symm (by simpa using hc)), ih hlast, List.append_assoc]

lemma newline_not_mem_lastLine (cs : List Char) : '\n' ∉ lastLine cs := fun h => by
  simpa using List.mem_rtakeWhile_imp h

lemma exists_lastLine (cs : List Char) : ∃ lead, cs = lead ++ lastLine cs ∧ lastLine lead = [] := by
  induction cs using List.reverseRecOn with
  | nil => exact ⟨[], rfl, rfl⟩
  | append_singleton cs c ih =>
    by_cases hc : c = '\n'
    · subst hc
      exact ⟨cs ++ ['\n'], by rw [lastLine_break, List.append_nil], lastLine_break cs⟩
    · obtain ⟨lead, hcs, hlead⟩ := ih
      refine ⟨lead, ?_, hlead⟩
      rw [lastLine_concat hc, ← List.append_assoc, ← hcs]

lemma lastLine_append_break (cs lead : List Char) : lastLine (cs ++ '\n' :: lead) = lastLine lead := by
  induction lead using List.reverseRecOn with
  | nil => exact lastLine_break cs
  | append_singleton lead c ih =>
    rw [← List.cons_append, ← List.append_assoc]
    by_cases hc : c = '\n'
    · rw [hc, lastLine_break, lastLine_break]
    · rw [lastLine_concat hc, lastLine_concat hc, ih]

lemma length_lastLine_le (cs : List Char) : (lastLine cs).length ≤ Text.size cs :=
  (List.rtakeWhile_suffix _ cs).length_le.trans (Text.length_le_size cs)

lemma count_le_size (cs : List Char) : cs.count '\n' ≤ Text.size cs :=
  List.count_le_length.trans (Text.length_le_size cs)

lemma Position.foldl_after_column (cs : List Char) :
    (cs.foldl Position.after .start).column = 1 + (lastLine cs).length.toUInt32 := by
  induction cs using List.reverseRecOn with
  | nil => rfl
  | append_singleton cs c ih =>
    rw [List.foldl_concat, Position.after]
    by_cases hc : c = '\n'
    · subst hc
      rw [if_pos rfl, lastLine_break]
      rfl
    · rw [if_neg hc, lastLine_concat hc, List.length_append, List.length_singleton, toUInt32_succ, ih,
        UInt32.add_comm]

end LastLine

section LinesOf

variable {cs xs ys l : List Char} {n : Nat}

lemma linesOf_eq_splitOn (cs : List Char) : linesOf cs = cs.splitOn '\n' := by
  induction cs with
  | nil => rfl
  | cons c cs ih =>
    rw [linesOf, List.splitOn_cons_eq_if_modifyHead, ih]
    cases h : cs.splitOn '\n' with
    | nil => exact absurd h (List.splitOn_ne_nil _ _)
    | cons l ls => simp

lemma linesOf_of_not_mem (h : '\n' ∉ cs) : linesOf cs = [cs] := by
  rw [linesOf_eq_splitOn, List.splitOn_eq_singleton h]

lemma linesOf_append_break (h : '\n' ∉ xs) : linesOf (xs ++ '\n' :: ys) = xs :: linesOf ys := by
  rw [linesOf_eq_splitOn, linesOf_eq_splitOn, List.splitOn_append_cons_self_of_not_mem h]

lemma intercalate_linesOf (cs : List Char) : ['\n'].intercalate (linesOf cs) = cs := by
  rw [linesOf_eq_splitOn, List.intercalate_splitOn]

lemma length_linesOf (cs : List Char) : (linesOf cs).length = cs.count '\n' + 1 := by
  induction cs with
  | nil => rfl
  | cons c cs ih =>
    rw [linesOf]
    split
    · next hc => rw [List.length_cons, ih, hc, List.count_cons_self]
    · next hc =>
      rw [List.count_cons_of_ne hc, ← ih]
      cases h : linesOf cs with
      | nil => simp [h] at ih
      | cons l ls => rfl

lemma exists_of_linesOf (h : (linesOf cs)[n]? = some l) :
    ∃ lead rest, cs = lead ++ (l ++ rest) ∧ lead.count '\n' = n ∧ lastLine lead = [] ∧ '\n' ∉ l ∧
      (rest = [] ∨ ['\n'] <+: rest) := by
  induction n generalizing cs with
  | zero =>
    by_cases hmem : '\n' ∈ cs
    · obtain ⟨xs, ys, rfl, hxs⟩ := List.eq_append_cons_of_mem hmem
      obtain rfl : xs = l := by simpa [linesOf_append_break hxs] using h
      exact ⟨[], '\n' :: ys, rfl, rfl, rfl, hxs, Or.inr (by simp)⟩
    · obtain rfl : cs = l := by simpa [linesOf_of_not_mem hmem] using h
      exact ⟨[], [], by simp, rfl, rfl, hmem, Or.inl rfl⟩
  | succ n ih =>
    by_cases hmem : '\n' ∈ cs
    · obtain ⟨xs, ys, rfl, hxs⟩ := List.eq_append_cons_of_mem hmem
      obtain ⟨lead, rest, rfl, hcount, hlead, hl, hrest⟩ := ih (by simpa [linesOf_append_break hxs] using h)
      refine ⟨xs ++ '\n' :: lead, rest, by simp, ?_, by rw [lastLine_append_break, hlead], hl, hrest⟩
      rw [List.count_append, List.count_eq_zero.mpr hxs, List.count_cons_self, hcount, Nat.zero_add]
    · simp [linesOf_of_not_mem hmem] at h

end LinesOf

namespace SourceFile

section Positions

variable {f : SourceFile} {before after : List Char} {n o o' : Nat} {p q : Position}

lemma isSome_walk (cs : List Char) (n : Nat) (p : Position) :
    (walk cs n p).isSome = (Text.dropBytes cs n).isSome := by
  induction cs generalizing n p with
  | nil => cases n <;> rfl
  | cons c cs ih =>
    cases n with
    | zero => rfl
    | succ n =>
      rw [walk, Text.dropBytes]
      split
      · exact ih _ _
      · rfl

lemma positionAt_eq_some_iff :
    f.positionAt o = some p ↔ ∃ before after, f.text = before ++ after ∧ Text.size before = o ∧
      p = before.foldl Position.after .start := by
  constructor
  · intro h
    have hsome : (Text.dropBytes f.text o).isSome := by
      rw [← isSome_walk f.text o .start]
      exact Option.isSome_of_eq_some h
    obtain ⟨after, hafter⟩ := Option.isSome_iff_exists.mp hsome
    obtain ⟨before, htext, rfl⟩ := Text.dropBytes_eq_some_iff.mp hafter
    rw [positionAt_append htext] at h
    exact ⟨before, after, htext, rfl, (Option.some.inj h).symm⟩
  · rintro ⟨before, after, htext, rfl, rfl⟩
    exact positionAt_append htext

lemma size_le_of_append (h : f.text = before ++ after) : Text.size before ≤ Text.size f.text := by
  rw [h, Text.size_append]
  exact Nat.le_add_right _ _

variable (hsize : Text.size f.text < 2 ^ 32 - 1)

include hsize

lemma toNat_line (h : f.text = before ++ after) :
    (before.foldl Position.after .start).line.toNat = 1 + before.count '\n' := by
  have hcount := (count_le_size before).trans (size_le_of_append h)
  rw [Position.foldl_after_line, Nat.add_comm]
  exact toNat_succ (by rw [UInt32.size]; omega)

lemma toNat_column (h : f.text = before ++ after) :
    (before.foldl Position.after .start).column.toNat = 1 + (lastLine before).length := by
  have hlength := (length_lastLine_le before).trans (size_le_of_append h)
  rw [Position.foldl_after_column, Nat.add_comm]
  exact toNat_succ (by rw [UInt32.size]; omega)

lemma compare_positionAt (hp : f.positionAt o = some p) (hq : f.positionAt o' = some q) (h : o < o') :
    compare p q = .lt := by
  obtain ⟨before, after, htext, rfl, rfl⟩ := positionAt_eq_some_iff.mp hp
  obtain ⟨before', after', htext', rfl, rfl⟩ := positionAt_eq_some_iff.mp hq
  obtain ⟨mid, rfl⟩ : ∃ mid, before' = before ++ mid := by
    obtain ⟨mid, hmid, -⟩ | ⟨mid, rfl, -⟩ := List.append_eq_append_iff.mp (htext.symm.trans htext')
    · exact ⟨mid, hmid⟩
    · rw [Text.size_append] at h
      omega
  rw [Position.compare_eq_lt, UInt32.lt_iff_toNat_lt, UInt32.lt_iff_toNat_lt, ← UInt32.toNat_inj,
    toNat_line hsize htext, toNat_line hsize htext', toNat_column hsize htext, toNat_column hsize htext',
    List.count_append]
  -- Behind a line break the line is a later one, without one the column is.
  by_cases hbreak : '\n' ∈ mid
  · have hpos := List.count_pos_iff.mpr hbreak
    exact Or.inl (by omega)
  · have hlength : 0 < mid.length := by
      rw [List.length_pos_iff]
      rintro rfl
      simp at h
    rw [List.count_eq_zero.mpr hbreak, lastLine_append hbreak, List.length_append]
    exact Or.inr ⟨rfl, by omega⟩

lemma positionAt_injective (hp : f.positionAt o = some p) (hq : f.positionAt o' = some p) : o = o' := by
  rcases Nat.lt_trichotomy o o' with h | h | h
  · have hlt := compare_positionAt hsize hp hq h
    simp [Position.compare_eq_lt] at hlt
  · exact h
  · have hlt := compare_positionAt hsize hq hp h
    simp [Position.compare_eq_lt] at hlt

end Positions

end SourceFile

end GlowSyntax
