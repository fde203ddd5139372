import GlowSyntax.Proofs.Grammar.LeftRecursion
import GlowSyntax.Proofs.Grammar.Nullable

/-!
The search for left recursion finds a cycle exactly if there is one. What it reports is cut out of the path from where
it started to a rule that is on the path already.
-/

namespace GlowSyntax

namespace Alternative

variable {names : List String} {a : Alternative} {name : String}

lemma mem_leading : name ∈ a.leading names ↔ ∃ before label after,
    a = before ++ ⟨.rule name, label⟩ :: after ∧ ∀ i ∈ before, ∃ n ∈ names, i.symbol = .rule n := by
  induction a with
  | nil => simp [leading]
  | cons i a ih =>
    obtain ⟨symbol, label⟩ := i
    constructor
    · intro h
      cases symbol with
      | token k => cases h
      | rule n =>
        rcases List.mem_cons.mp h with rfl | h
        · exact ⟨[], label, a, rfl, by simp⟩
        · rw [List.mem_ite_nil_right, List.contains_iff_mem] at h
          obtain ⟨before, label', after, rfl, hbefore⟩ := ih.mp h.2
          exact ⟨_ :: before, label', after, rfl, List.forall_mem_cons.mpr ⟨⟨n, h.1, rfl⟩, hbefore⟩⟩
    · rintro ⟨before, label', after, heq, hbefore⟩
      cases before with
      | nil =>
        cases heq
        exact List.mem_cons_self
      | cons j before =>
        obtain ⟨rfl, rfl⟩ := List.cons.inj heq
        obtain ⟨⟨n, hn, rfl⟩, hrest⟩ := List.forall_mem_cons.mp hbefore
        refine List.mem_cons_of_mem n ?_
        rw [List.mem_ite_nil_right, List.contains_iff_mem]
        exact ⟨hn, ih.mpr ⟨before, label', after, rfl, hrest⟩⟩

end Alternative

namespace Grammar

/-- A rule leads to those that stand in an alternative of it behind nothing but rules that derive the empty sequence. -/
def LeadsTo (g : Grammar) (x y : String) : Prop :=
  ∃ r, g.find? x = some r ∧ ∃ before label after, before ++ ⟨.rule y, label⟩ :: after ∈ r.alternatives ∧
    ∀ i ∈ before, ∃ name, i.symbol = .rule name ∧ g.DerivesEmpty name

def IsCycle (leads : String → String → Prop) (walk : List String) : Prop :=
  ∃ name between, walk = name :: between ++ [name] ∧ (name :: between).Nodup ∧ walk.IsChain leads

variable {g : Grammar} {edges : String → List String} {path clear cycle : List String} {node x y : String} {n : Nat}

lemma mem_leads_iff : y ∈ g.leads x ↔ g.LeadsTo x y := by
  rw [leads, LeadsTo]
  cases g.find? x with
  | none => simp
  | some r =>
    simp only [List.mem_flatMap, Alternative.mem_leading, Option.some.injEq, exists_eq_left', mem_nullable_iff]
    constructor
    · rintro ⟨_, ha, before, label, after, rfl, hbefore⟩
      exact ⟨before, label, after, ha, fun i hi => (hbefore i hi).imp fun _ h => h.symm⟩
    · rintro ⟨before, label, after, ha, hbefore⟩
      exact ⟨_, ha, before, label, after, rfl, fun i hi => (hbefore i hi).imp fun _ h => h.symm⟩

lemma foldlM_error {ε : Type} {f : List String → String → Except ε (List String)} {nodes : List String} {e : ε}
    (h : nodes.foldlM f clear = .error e) : ∃ c, ∃ x ∈ nodes, f c x = .error e := by
  induction nodes generalizing clear with
  | nil => cases h
  | cons x xs ih =>
    rw [List.foldlM_cons] at h
    cases hx : f clear x with
    | error e' =>
      rw [hx] at h
      cases h
      exact ⟨clear, x, List.mem_cons_self, hx⟩
    | ok c =>
      rw [hx] at h
      obtain ⟨c', y, hy, hf⟩ := ih h
      exact ⟨c', y, List.mem_cons_of_mem x hy, hf⟩

lemma explore_error (h : explore edges (n + 1) path clear node = .error cycle) :
    (node ∈ path ∧ cycle = path.dropWhile (· != node) ++ [node]) ∨
    (node ∉ path ∧ ∃ c, ∃ next ∈ edges node, explore edges n (path ++ [node]) c next = .error cycle) := by
  rw [explore] at h
  split at h
  · cases h
  · split at h
    · next hmem =>
      cases h
      exact Or.inl ⟨by simpa using hmem, rfl⟩
    · next hnew =>
      split at h
      · cases h
      · next e hfold =>
        cases h
        exact Or.inr ⟨by simpa using hnew, foldlM_error hfold⟩

lemma dropWhile_of_mem (h : node ∈ path) : ∃ rest, path.dropWhile (· != node) = node :: rest := by
  induction path with
  | nil => cases h
  | cons x path ih =>
    by_cases hx : x = node
    · exact ⟨path, by simp [hx]⟩
    · obtain ⟨rest, hrest⟩ := ih ((List.mem_cons.mp h).resolve_left (Ne.symm hx))
      exact ⟨rest, by simpa [hx] using hrest⟩

-- By induction on `n`, with the path and the node that it leads to as a chain without repetitions on the path.
lemma isCycle_of_explore (hchain : (path ++ [node]).IsChain fun x y => y ∈ edges x) (hnodup : path.Nodup)
    (h : explore edges n path clear node = .error cycle) : IsCycle (fun x y => y ∈ edges x) cycle := by
  induction n generalizing path clear node with
  | zero => cases h
  | succ n ih =>
    rcases explore_error h with ⟨hmem, rfl⟩ | ⟨hnew, c, next, hnext, h⟩
    · have hsuffix : path.dropWhile (· != node) <:+ path := List.dropWhile_suffix _
      obtain ⟨rest, hrest⟩ := dropWhile_of_mem hmem
      refine ⟨node, rest, by rw [hrest], hrest ▸ hnodup.sublist hsuffix.sublist, hchain.suffix ?_⟩
      exact (List.suffix_append_self_iff).mpr hsuffix
    · refine ih ?_ ?_ h
      · exact hchain.append_overlap (List.isChain_pair.mpr hnext) (List.cons_ne_nil _ _)
      · rw [← List.concat_eq_append, List.nodup_concat]
        exact ⟨hnew, hnodup⟩

lemma isCycle_of_some (h : g.leftRecursion? = some cycle) : IsCycle g.LeadsTo cycle := by
  rw [leftRecursion?] at h
  split at h
  · cases h
  · next hfold =>
    cases h
    obtain ⟨c, name, -, hexplore⟩ := foldlM_error hfold
    have hcycle := isCycle_of_explore (List.isChain_singleton _) List.nodup_nil hexplore
    simpa only [mem_leads_iff] using hcycle

lemma IsCycle.transGen {leads : String → String → Prop} (h : IsCycle leads cycle) :
    ∃ name, Relation.TransGen leads name name := by
  obtain ⟨name, between, rfl, -, hchain⟩ := h
  have hwalk : (name :: between ++ [name]).Pairwise (Relation.TransGen leads) :=
    (hchain.imp fun _ _ => Relation.TransGen.single).pairwise
  exact ⟨name, List.rel_of_pairwise_cons hwalk (by simp)⟩

lemma LeadsTo.mem_names (h : g.LeadsTo x y) : x ∈ g.names :=
  mem_names_of_leads (List.ne_nil_of_mem (mem_leads_iff.mpr h))

lemma not_transGen_of_none (h : g.leftRecursion? = none) : ¬ Relation.TransGen g.LeadsTo x x := by
  intro hx
  have hwf := (wellFounded_of_none h).transGen
  refine hwf.irrefl.irrefl x (Relation.transGen_swap.mp ?_)
  simpa only [Function.swap, mem_leads_iff] using hx

end Grammar

theorem leftRecursion?_exact (g : Grammar) :
    (g.leftRecursion?.isSome ↔ ∃ name ∈ g.names, Relation.TransGen g.LeadsTo name name) ∧
    ∀ cycle, g.leftRecursion? = some cycle → ∃ name between, cycle = name :: between ++ [name] ∧
      (name :: between).Nodup ∧ cycle.IsChain g.LeadsTo := by
  refine ⟨⟨fun h => ?_, ?_⟩, fun cycle h => Grammar.isCycle_of_some h⟩
  · obtain ⟨cycle, hcycle⟩ := Option.isSome_iff_exists.mp h
    obtain ⟨name, hname⟩ := (Grammar.isCycle_of_some hcycle).transGen
    obtain ⟨next, hnext, -⟩ := Relation.TransGen.head'_iff.mp hname
    exact ⟨name, hnext.mem_names, hname⟩
  · rintro ⟨name, -, hname⟩
    by_contra hnone
    exact Grammar.not_transGen_of_none (Option.not_isSome_iff_eq_none.mp hnone) hname

def hiddenRules : Grammar :=
  .ofRules [⟨"list", [[.rule "item"], [.rule "none", .rule "list", .token .semicolon]]⟩, ⟨"none", [[]]⟩,
    ⟨"item", [[.rule "none", .rule "lost"]]⟩]

theorem leftRecursion?_exact_hidden :
    hiddenRules.leftRecursion? = some ["list", "list"] ∧ ["list", "list"].IsChain hiddenRules.LeadsTo ∧
    ∃ name ∈ hiddenRules.names, Relation.TransGen hiddenRules.LeadsTo name name := by
  have hcycle : hiddenRules.leftRecursion? = some ["list", "list"] := by decide +kernel
  obtain ⟨hiff, hform⟩ := leftRecursion?_exact hiddenRules
  obtain ⟨-, -, -, -, hchain⟩ := hform _ hcycle
  exact ⟨hcycle, hchain, hiff.mp (by rw [hcycle]; rfl)⟩

end GlowSyntax
