import GlowSyntax.Proofs.Grammar.Derivation
import Mathlib.Data.List.Chain
import Mathlib.Data.List.Perm.Subperm
import Mathlib.Order.WellFounded

/-!
Where the search finds no cycle there is none: the nodes that it clears are ordered, each one before the
nodes that it leads to. So in a grammar that passes its check the rules that can be nested in each other
before a token is taken are distinct.
-/

namespace GlowSyntax

lemma Alternative.leading_subset {nullable : List String} {a : Alternative} :
    a.leading nullable ⊆ a.references := by
  induction a with
  | nil => exact List.Subset.refl _
  | cons i a ih =>
    obtain ⟨symbol, label⟩ := i
    cases symbol with
    | token k => exact List.nil_subset _
    | rule name =>
      refine List.cons_subset_cons name ?_
      by_cases hn : nullable.contains name
      · rw [if_pos hn]
        exact ih
      · rw [if_neg hn]
        exact List.nil_subset _

namespace Grammar

def Ordered (edges : String → List String) : List String → Prop
  | [] => True
  | x :: xs => edges x ⊆ xs ∧ Ordered edges xs

variable {edges : String → List String} {names path clear clear' : List String} {node : String} {n : Nat}

lemma Ordered.acc (h : Ordered edges clear) (hx : node ∈ clear) : Acc (fun y x => y ∈ edges x) node := by
  induction clear generalizing node with
  | nil => cases hx
  | cons x xs ih =>
    rcases List.mem_cons.mp hx with rfl | hx
    · exact ⟨_, fun y hy => ih h.2 (h.1 hy)⟩
    · exact ih h.2 hx

lemma foldlM_clears {ε : Type} {f : List String → String → Except ε (List String)} {P : List String → Prop}
    {nodes : List String}
    (hf : ∀ c, P c → ∀ x ∈ nodes, ∀ c', f c x = .ok c' → P c' ∧ x ∈ c' ∧ c ⊆ c')
    (h : nodes.foldlM f clear = .ok clear') (hp : P clear) : P clear' ∧ nodes ⊆ clear' ∧ clear ⊆ clear' := by
  induction nodes generalizing clear with
  | nil =>
    cases h
    exact ⟨hp, List.nil_subset _, List.Subset.refl _⟩
  | cons x xs ih =>
    rw [List.foldlM_cons] at h
    cases hx : f clear x with
    | error e =>
      rw [hx] at h
      cases h
    | ok c =>
      rw [hx] at h
      obtain ⟨hc, hmem, hsub⟩ := hf clear hp x List.mem_cons_self c hx
      obtain ⟨hp', hxs, hsub'⟩ := ih (fun c hc y hy => hf c hc y (List.mem_cons_of_mem x hy)) h hc
      exact ⟨hp', List.cons_subset.mpr ⟨hsub' hmem, hxs⟩, List.Subset.trans hsub hsub'⟩

lemma explore_succ (h : explore edges (n + 1) path clear node = .ok clear') :
    (node ∈ clear ∧ clear' = clear) ∨
    (node ∉ path ∧ ∃ c, clear' = node :: c ∧
      (edges node).foldlM (fun c x => explore edges n (path ++ [node]) c x) clear = .ok c) := by
  rw [explore] at h
  split at h
  · next hmem =>
    cases h
    exact Or.inl ⟨by simpa using hmem, rfl⟩
  · split at h
    · cases h
    · next hnew =>
      split at h
      · next c hfold =>
        cases h
        exact Or.inr ⟨by simpa using hnew, c, rfl, hfold⟩
      · cases h

lemma explore_clears (hedges : ∀ x, edges x ≠ [] → x ∈ names) (hnodup : path.Nodup) (hpath : path ⊆ names)
    (hroom : names.length + 2 ≤ n + path.length) (h : explore edges n path clear node = .ok clear')
    (hc : Ordered edges clear) : Ordered edges clear' ∧ node ∈ clear' ∧ clear ⊆ clear' := by
  induction n generalizing path clear clear' node with
  | zero =>
    -- A path without repetitions is at most as long as there are nodes, so the room does not run out.
    have hle := (hnodup.subperm hpath).length_le
    omega
  | succ n ih =>
    rcases explore_succ h with ⟨hmem, rfl⟩ | ⟨hnew, c, rfl, hfold⟩
    · exact ⟨hc, hmem, List.Subset.refl _⟩
    · have hnext : ∀ c, Ordered edges c → ∀ x ∈ edges node, ∀ c',
          explore edges n (path ++ [node]) c x = .ok c' → Ordered edges c' ∧ x ∈ c' ∧ c ⊆ c' := by
        intro c hc x hx c' hc'
        refine ih ?_ ?_ ?_ hc' hc
        · rw [← List.concat_eq_append, List.nodup_concat]
          exact ⟨hnew, hnodup⟩
        · exact List.append_subset.mpr ⟨hpath, by simpa using hedges node (List.ne_nil_of_mem hx)⟩
        · rw [List.length_append, List.length_singleton]
          omega
      obtain ⟨hc', hsub, hclear⟩ := foldlM_clears hnext hfold hc
      exact ⟨⟨hsub, hc'⟩, List.mem_cons_self, List.Subset.trans hclear (List.subset_cons_self _ _)⟩

variable {g : Grammar}

lemma mem_names_of_leads (h : g.leads node ≠ []) : node ∈ g.names := by
  by_contra hnot
  rw [leads, find?_eq_none.mpr hnot] at h
  exact h rfl

lemma wellFounded_of_none (hnone : g.leftRecursion? = none) : WellFounded fun y x => y ∈ g.leads x := by
  rw [leftRecursion?] at hnone
  split at hnone
  · next clear hfold =>
    have hnext : ∀ c, Ordered g.leads c → ∀ x ∈ g.names, ∀ c', explore g.leads (g.size + 2) [] c x = .ok c' →
        Ordered g.leads c' ∧ x ∈ c' ∧ c ⊆ c' := by
      intro c hc x _ c' hx
      refine explore_clears (fun _ => mem_names_of_leads) List.nodup_nil (List.nil_subset _) ?_ hx hc
      rw [length_names, List.length_nil, Nat.add_zero]
    obtain ⟨hc, hnames, -⟩ := foldlM_clears hnext hfold trivial
    refine ⟨fun x => ⟨x, fun y hy => ?_⟩⟩
    exact (hc.acc (hnames (mem_names_of_leads (List.ne_nil_of_mem hy)))).inv hy
  · cases hnone

theorem wellFounded_leads (hv : g.validate = .ok ()) : WellFounded fun y x => y ∈ g.leads x :=
  wellFounded_of_none (validate_eq_ok hv).2

lemma leads_subset (hv : g.validate = .ok ()) : g.leads node ⊆ g.names := by
  intro x hx
  rw [leads] at hx
  split at hx
  · next r hf =>
    obtain ⟨a, ha, hx⟩ := List.mem_flatMap.mp hx
    refine references_subset hv (find?_eq_some hf).1 ?_
    exact List.mem_flatMap.mpr ⟨a, ha, Alternative.leading_subset hx⟩
  · cases hx

lemma nodup_of_isChain (hv : g.validate = .ok ()) {chain : List String}
    (h : chain.IsChain fun x y => x ∈ g.leads y) : chain.Nodup := by
  have htrans : chain.Pairwise (Relation.TransGen fun x y => x ∈ g.leads y) :=
    (h.imp fun _ _ => Relation.TransGen.single).pairwise
  have hwf := (wellFounded_leads hv).transGen
  refine htrans.imp ?_
  rintro x y hxy rfl
  exact hwf.irrefl.irrefl x hxy

lemma subset_names_of_isChain (hv : g.validate = .ok ()) {x y : String} {chain : List String}
    (h : (x :: y :: chain).IsChain fun x y => x ∈ g.leads y) : x :: y :: chain ⊆ g.names := by
  induction chain generalizing x y with
  | nil =>
    have hx := List.isChain_pair.mp h
    exact List.cons_subset.mpr ⟨leads_subset hv hx, by simpa using mem_names_of_leads (List.ne_nil_of_mem hx)⟩
  | cons z chain ih =>
    obtain ⟨hx, h⟩ := List.isChain_cons_cons.mp h
    exact List.cons_subset.mpr ⟨leads_subset hv hx, ih h⟩

lemma length_le_of_isChain (hv : g.validate = .ok ()) {x y : String} {chain : List String}
    (h : (x :: y :: chain).IsChain fun x y => x ∈ g.leads y) : (x :: y :: chain).length ≤ g.size := by
  rw [← length_names]
  exact ((nodup_of_isChain hv h).subperm (subset_names_of_isChain hv h)).length_le

end Grammar

end GlowSyntax
