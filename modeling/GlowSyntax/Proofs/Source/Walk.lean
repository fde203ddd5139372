import GlowSyntax.Source.File
import Mathlib.Order.Nat

namespace GlowSyntax

lemma Text.length_le_size (cs : List Char) : cs.length ≤ Text.size cs := by
  induction cs with
  | nil => exact le_rfl
  | cons c cs ih =>
    have hpos := c.utf8Size_pos
    rw [List.length_cons, Text.size_cons]
    omega

namespace SourceFile

lemma walk_append (xs ys : List Char) (p : Position) :
    walk (xs ++ ys) (Text.size xs) p = some (xs.foldl Position.after p) := by
  induction xs generalizing p with
  | nil => cases ys <;> rfl
  | cons c cs ih =>
    obtain ⟨n, hn⟩ : ∃ n, Text.size (c :: cs) = n + 1 :=
      Nat.exists_eq_succ_of_ne_zero (Nat.add_pos_left c.utf8Size_pos (Text.size cs)).ne.symm
    have hrest : n + 1 - c.utf8Size = Text.size cs := by
      rw [← hn, Text.size_cons, Nat.add_sub_cancel_left]
    rw [List.cons_append, hn, walk, if_pos (by rw [← hn, Text.size_cons]; omega), hrest, ih, List.foldl_cons]

lemma positionAt_append {f : SourceFile} {before after : List Char} (h : f.text = before ++ after) :
    f.positionAt (Text.size before) = some (before.foldl Position.after .start) := by
  rw [positionAt, h, walk_append]

end SourceFile

namespace Span

variable {start stop : Nat}

lemma start_ofOffsets (h : start < UInt32.size) : (ofOffsets start stop).start.toNat = start :=
  UInt32.toNat_ofNat_of_lt' h

lemma stop_ofOffsets (h : stop < UInt32.size) : (ofOffsets start stop).stop.toNat = stop :=
  UInt32.toNat_ofNat_of_lt' h

end Span

lemma toUInt32_succ (n : Nat) : (n + 1).toUInt32 = 1 + n.toUInt32 := by
  rw [Nat.add_comm]
  exact UInt32.ofNat_add 1 n

lemma toNat_succ {n : Nat} (h : n + 1 < UInt32.size) : (1 + n.toUInt32).toNat = n + 1 := by
  rw [← toUInt32_succ]
  exact UInt32.toNat_ofNat_of_lt' h

lemma Position.foldl_after {t : List Char} (h : '\n' ∉ t) (p : Position) :
    t.foldl Position.after p = ⟨p.line, p.column + t.length.toUInt32⟩ := by
  induction t generalizing p with
  | nil => simp
  | cons c cs ih =>
    obtain ⟨hc, hcs⟩ := not_or.mp (mt List.mem_cons.mpr h)
    rw [List.foldl_cons, ih hcs, Position.after, if_neg (Ne.symm hc), List.length_cons, toUInt32_succ,
      ← UInt32.add_assoc]

lemma Position.foldl_after_line (cs : List Char) (p : Position) :
    (cs.foldl Position.after p).line = p.line + (cs.count '\n').toUInt32 := by
  induction cs generalizing p with
  | nil => simp
  | cons c cs ih =>
    rw [List.foldl_cons, ih, Position.after]
    by_cases hc : c = '\n'
    · rw [if_pos hc, hc, List.count_cons_self, toUInt32_succ, ← UInt32.add_assoc]
    · rw [if_neg hc, List.count_cons_of_ne hc]

end GlowSyntax
