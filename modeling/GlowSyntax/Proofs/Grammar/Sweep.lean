import GlowSyntax.Proofs.Grammar.Nullable
import Mathlib.Data.List.Perm.Subperm

/-!
The rules that match without a token, found in place: each sweep goes over the rules in their order, any of which sees
what the sweep has found before it, until a sweep finds nothing. The order makes no difference to what is found.
-/

namespace GlowSyntax.Grammar

def notice (found : List String) (r : Rule) : List String :=
  if found.contains r.name then found
  else if r.alternatives.any (Alternative.isNullable found) then r.name :: found
  else found

def sweep (g : Grammar) (found : List String) : List String := g.rules.foldl notice found

def saturate (g : Grammar) : Nat → List String → Option (List String)
  | 0, _ => none
  | n + 1, found => if g.sweep found = found then some found else g.saturate n (g.sweep found)

structure Found (g : Grammar) (found : List String) : Prop where
  nodup : found.Nodup
  derives : ∀ name ∈ found, g.DerivesEmpty name

variable {g : Grammar} {found : List String} {r : Rule} {rs : List Rule}

lemma DerivesEmpty.mem_names {name : String} (h : g.DerivesEmpty name) : name ∈ g.names := by
  obtain ⟨r, hf, -⟩ := h
  obtain ⟨hr, rfl⟩ := find?_eq_some hf
  exact List.mem_map_of_mem hr

lemma suffix_notice : found <:+ notice found r := by
  rw [notice]
  split
  · exact List.suffix_rfl
  · split
    · exact List.suffix_cons _ _
    · exact List.suffix_rfl

lemma suffix_foldl_notice : found <:+ rs.foldl notice found := by
  induction rs generalizing found with
  | nil => exact List.suffix_rfl
  | cons r rs ih => exact suffix_notice.trans ih

lemma mem_notice {a : Alternative} (ha : a ∈ r.alternatives) (hn : a.isNullable found = true) :
    r.name ∈ notice found r := by
  have hany : r.alternatives.any (Alternative.isNullable found) = true := List.any_eq_true.mpr ⟨a, ha, hn⟩
  rw [notice, if_pos hany]
  split
  · next hmem => simpa using hmem
  · exact List.mem_cons_self

lemma mem_foldl_notice {a : Alternative} (hr : r ∈ rs) (ha : a ∈ r.alternatives) (hn : a.isNullable found = true) :
    r.name ∈ rs.foldl notice found := by
  induction rs generalizing found with
  | nil => cases hr
  | cons s rs ih =>
    rcases List.mem_cons.mp hr with rfl | hr
    · have hlater : notice found r <:+ rs.foldl notice (notice found r) := suffix_foldl_notice
      exact hlater.subset (mem_notice ha hn)
    · exact ih hr (Alternative.isNullable_mono suffix_notice.subset hn)

lemma closedUnder_of_sweep (h : g.sweep found = found) : g.ClosedUnder found := by
  intro r hr a ha hn
  rw [← h]
  exact mem_foldl_notice hr ha hn

namespace Found

lemma notice (h : g.Found found) (hr : r ∈ g.rules) : g.Found (notice found r) := by
  rw [Grammar.notice]
  split
  · exact h
  · next hnew =>
    split
    · next hany =>
      obtain ⟨a, ha, hn⟩ := List.any_eq_true.mp hany
      exact ⟨List.nodup_cons.mpr ⟨by simpa using hnew, h.nodup⟩,
        List.forall_mem_cons.mpr ⟨derivesEmpty_of_mem h.derives hr ha hn, h.derives⟩⟩
    · exact h

lemma sweep (h : g.Found found) : g.Found (g.sweep found) :=
  List.foldlRecOn g.rules Grammar.notice h fun _ hfound _ hr => hfound.notice hr

lemma length_le (h : g.Found found) : found.length ≤ g.size := by
  rw [← length_names]
  exact (h.nodup.subperm fun name hname => (h.derives name hname).mem_names).length_le

end Found

lemma exists_saturate {n : Nat} (h : g.Found found) (hn : g.size < found.length + n) :
    ∃ all, g.saturate n found = some all ∧ g.Found all ∧ g.sweep all = all := by
  induction n generalizing found with
  | zero =>
    have hle := h.length_le
    omega
  | succ n ih =>
    rw [saturate]
    split
    · next hstill => exact ⟨found, rfl, h, hstill⟩
    · next hmore =>
      have hgrows : found.length < (g.sweep found).length := by
        by_contra hle
        exact hmore (suffix_foldl_notice.eq_of_length_le (not_lt.mp hle)).symm
      exact ih h.sweep (by omega)

lemma saturate_eq_some (g : Grammar) :
    ∃ found, g.saturate (g.size + 1) [] = some found ∧ ∀ name, name ∈ found ↔ g.DerivesEmpty name := by
  have hstart : g.Found [] := ⟨List.nodup_nil, by simp⟩
  obtain ⟨found, hfound, hs, hstill⟩ := exists_saturate hstart (n := g.size + 1) (by simp)
  exact ⟨found, hfound, fun name => mem_iff_derivesEmpty (closedUnder_of_sweep hstill) hs.derives⟩

end GlowSyntax.Grammar
