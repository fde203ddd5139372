import GlowSyntax.Match.Failure
import Mathlib.Order.Nat

namespace GlowSyntax.FailureRecord

structure Keeps (r : FailureRecord) (fs : List Failure) : Prop where
  deepest_eq : r.deepest = (fs.map Failure.depth).max?
  attempts_eq : r.attempts = fs.filter fun f => some f.depth = r.deepest

lemma keeps_empty : Keeps empty [] := ⟨rfl, rfl⟩

lemma Keeps.depth_le {r : FailureRecord} {fs : List Failure} {n : Nat} (h : r.Keeps fs) (hn : r.deepest = some n) :
    ∀ f ∈ fs, f.depth ≤ n := by
  have hm := h.deepest_eq.symm.trans hn
  rw [List.max?_eq_some_iff] at hm
  intro f hf
  exact hm.2 f.depth (List.mem_map_of_mem hf)

lemma Keeps.add {r : FailureRecord} {fs : List Failure} (h : r.Keeps fs) (f : Failure) :
    (r.add f).Keeps (fs ++ [f]) := by
  have hnew : (∀ g ∈ fs, g.depth < f.depth) → Keeps ⟨[f], some f.depth⟩ (fs ++ [f]) := by
    intro hlt
    constructor
    · refine (List.max?_eq_some_iff.mpr ⟨by simp, ?_⟩).symm
      simp only [List.map_append, List.mem_append, List.mem_map, List.map_cons, List.map_nil, List.mem_singleton]
      rintro b (⟨g, hg, rfl⟩ | rfl)
      · exact (hlt g hg).le
      · exact le_refl _
    · have hnone : fs.filter (fun g => some g.depth = some f.depth) = [] := by
        rw [List.filter_eq_nil_iff]
        intro g hg
        simpa using (hlt g hg).ne
      simp only [List.filter_append, hnone]
      simp
  cases hd : r.deepest with
  | none =>
    have hfs : fs = [] := by
      have hm := h.deepest_eq.symm.trans hd
      simpa using hm
    rw [FailureRecord.add, hd]
    exact hnew (by simp [hfs])
  | some n =>
    have hle := h.depth_le hd
    have hmax : n ∈ fs.map Failure.depth := (List.max?_eq_some_iff.mp (h.deepest_eq.symm.trans hd)).1
    have hsame : f.depth ≤ n → ((fs ++ [f]).map Failure.depth).max? = some n := by
      intro hf
      rw [List.max?_eq_some_iff]
      simp only [List.map_append, List.mem_append, List.mem_map, List.map_cons, List.map_nil, List.mem_singleton]
      refine ⟨Or.inl (by simpa using hmax), ?_⟩
      rintro b (⟨g, hg, rfl⟩ | rfl)
      · exact hle g hg
      · exact hf
    simp only [FailureRecord.add, hd]
    by_cases hlt : f.depth < n
    · rw [if_pos hlt]
      refine ⟨by rw [hd, hsame hlt.le], ?_⟩
      rw [h.attempts_eq, hd]
      simp [List.filter_append, hlt.ne]
    · rw [if_neg hlt]
      by_cases heq : f.depth = n
      · rw [if_pos heq]
        refine ⟨by simpa [hd] using (hsame heq.le).symm, ?_⟩
        simp only [h.attempts_eq, hd]
        simp [List.filter_append, heq]
      · rw [if_neg heq]
        exact hnew fun g hg => lt_of_le_of_lt (hle g hg) (by omega)

lemma Keeps.addAll {r : FailureRecord} {fs : List Failure} (h : r.Keeps fs) (gs : List Failure) :
    (r.addAll gs).Keeps (fs ++ gs) := by
  induction gs generalizing r fs with
  | nil => simpa [FailureRecord.addAll] using h
  | cons g gs ih =>
    have hg := ih (h.add g)
    rwa [List.append_assoc] at hg

lemma keeps_addAll (fs : List Failure) : (empty.addAll fs).Keeps fs := by
  simpa using keeps_empty.addAll fs

lemma Keeps.mem_attempts {r : FailureRecord} {fs : List Failure} {f : Failure} (h : r.Keeps fs) :
    f ∈ r.attempts ↔ f ∈ fs ∧ r.deepest = some f.depth := by
  rw [h.attempts_eq, List.mem_filter, decide_eq_true_iff, eq_comm (a := r.deepest)]

lemma Keeps.exists_deepest {r : FailureRecord} {fs : List Failure} {n : Nat} (h : r.Keeps fs)
    (hn : r.deepest = some n) : ∃ f ∈ r.attempts, f.depth = n := by
  obtain ⟨f, hf, rfl⟩ := List.mem_map.mp (List.max?_eq_some_iff.mp (h.deepest_eq.symm.trans hn)).1
  exact ⟨f, h.mem_attempts.mpr ⟨hf, hn⟩, rfl⟩

lemma Keeps.deepest_of_mem {r : FailureRecord} {fs : List Failure} {f : Failure} (h : r.Keeps fs) (hf : f ∈ fs) :
    ∃ n, r.deepest = some n ∧ f.depth ≤ n := by
  have hne : fs.map Failure.depth ≠ [] := List.ne_nil_of_mem (List.mem_map_of_mem hf)
  obtain ⟨n, hn⟩ := Option.ne_none_iff_exists'.mp (mt List.max?_eq_none_iff.mp hne)
  have hd := h.deepest_eq.trans hn
  exact ⟨n, hd, h.depth_le hd f hf⟩

end GlowSyntax.FailureRecord
