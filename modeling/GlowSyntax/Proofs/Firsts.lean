import Mathlib.Data.List.Induction
import Mathlib.Data.List.Nodup

namespace GlowSyntax

structure FirstsOf {α : Type} [BEq α] (firsts all : List α) : Prop where
  nodup : firsts.Nodup
  mem_iff : ∀ a, a ∈ firsts ↔ a ∈ all
  ordered : firsts.Pairwise fun a b => all.idxOf a < all.idxOf b

namespace FirstsOf

variable {α : Type} [BEq α] {firsts all : List α} {a : α}

lemma nil : FirstsOf ([] : List α) [] := ⟨List.nodup_nil, fun _ => Iff.rfl, List.Pairwise.nil⟩

variable [LawfulBEq α]

lemma ordered_append (h : FirstsOf firsts all) (rest : List α) :
    firsts.Pairwise fun a b => (all ++ rest).idxOf a < (all ++ rest).idxOf b := by
  refine h.ordered.imp_of_mem fun {a b} ha hb hab => ?_
  rw [List.idxOf_append_of_mem ((h.mem_iff a).mp ha), List.idxOf_append_of_mem ((h.mem_iff b).mp hb)]
  exact hab

lemma concat_of_mem (h : FirstsOf firsts all) (ha : a ∈ all) : FirstsOf firsts (all ++ [a]) := by
  refine ⟨h.nodup, fun b => ?_, h.ordered_append [a]⟩
  rw [h.mem_iff, List.mem_append, List.mem_singleton]
  refine ⟨Or.inl, ?_⟩
  rintro (hb | rfl)
  · exact hb
  · exact ha

lemma concat_of_not_mem (h : FirstsOf firsts all) (ha : a ∉ all) : FirstsOf (firsts ++ [a]) (all ++ [a]) := by
  refine ⟨?_, fun b => by simp [h.mem_iff], ?_⟩
  · rw [← List.concat_eq_append, List.nodup_concat]
    exact ⟨mt (h.mem_iff a).mp ha, h.nodup⟩
  · apply List.pairwise_append.mpr
    refine ⟨h.ordered_append [a], List.pairwise_singleton _ _, fun b hb c hc => ?_⟩
    obtain rfl := List.mem_singleton.mp hc
    have hb := (h.mem_iff b).mp hb
    rw [List.idxOf_append_of_mem hb, List.idxOf_append_of_notMem ha]
    exact Nat.lt_add_right _ (List.idxOf_lt_length_of_mem hb)

end FirstsOf

variable {α : Type} [BEq α] [LawfulBEq α]

lemma firstsOf_eraseDups (all : List α) : FirstsOf all.eraseDups all := by
  induction all using List.reverseRecOn with
  | nil => exact .nil
  | append_singleton xs a ih =>
    rw [List.eraseDups_append]
    by_cases ha : a ∈ xs
    · have hnone : [a].removeAll xs = [] := by simp [List.removeAll, ha]
      simpa [hnone] using ih.concat_of_mem ha
    · have hone : ([a].removeAll xs).eraseDups = [a] := by simp [List.removeAll, ha, List.eraseDups_cons]
      simpa [hone] using ih.concat_of_not_mem ha

end GlowSyntax
