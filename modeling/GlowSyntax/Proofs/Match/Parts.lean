import GlowSyntax.Proofs.Match.Tokenless

namespace GlowSyntax

inductive Grammar.Matches (g : Grammar) (limit : Nat) (sc : Scanner) (s : ScanState) : Tree → Prop
  | rule {name depth t} : (attemptRule g limit sc name s depth).result = .ok (some t) → Matches g limit sc s t
  | alternative {r i a depth t} : g.find? r.name = some r → r.alternatives[i]? = some a →
      (attemptAlternative g limit sc r i a s depth).result = .ok (some t) → Matches g limit sc s t

namespace Capture

def tokens : Capture → List Token
  | token t => [t]
  | tree t => t.parts.tokens

def span : Capture → Option Span
  | token t => some t.span
  | tree t => t.span

end Capture

namespace Forest

def pieces : Forest → List (Option String × Capture)
  | nil => []
  | token label t rest => (label, .token t) :: rest.pieces
  | tree label node parts rest => (label, .tree ⟨node, parts⟩) :: rest.pieces

lemma tokens_eq_flatMap (f : Forest) : f.tokens = f.pieces.flatMap fun p => p.2.tokens := by
  induction f with
  | nil => rfl
  | token label t rest ih => rw [tokens, ih]; rfl
  | tree label node parts rest _ ih => rw [tokens, ih]; rfl

variable {f : Forest} {m : Tree} {p : Option String × Capture}

lemma sublist_of_mem_pieces (hp : p ∈ f.pieces) :
    p.2.tokens.Sublist f.tokens := by
  rw [tokens_eq_flatMap, List.flatMap_def]
  exact List.sublist_flatten_of_mem (List.mem_map_of_mem hp)

lemma infix_of_mem_trees (hm : m ∈ f.trees) : m.parts.tokens <:+: f.tokens := by
  induction f with
  | nil => cases hm
  | token label t rest ih => exact (ih hm).trans (List.suffix_cons t rest.tokens).isInfix
  | tree label node parts rest ihparts ih =>
    rcases List.mem_cons.mp hm with rfl | hm
    · exact (List.prefix_append parts.tokens rest.tokens).isInfix
    · rcases List.mem_append.mp hm with hm | hm
      · exact (ihparts hm).trans (List.prefix_append parts.tokens rest.tokens).isInfix
      · exact (ih hm).trans (List.suffix_append parts.tokens rest.tokens).isInfix

end Forest

structure Tree.IsOf (g : Grammar) (t : Tree) : Prop where
  rule_eq : g.find? t.rule.name = some t.rule
  alternative_eq : t.rule.alternatives[t.node.alternative]? = some t.matched
  fits : Forest.Fits g t.matched t.parts

variable {g : Grammar} {limit : Nat} {sc : Scanner} {s : ScanState} {t m : Tree}

lemma Tree.isOf_of_fits {name : String} {a : Alternative} {node : Node} {parts : Forest}
    (hf : g.find? name = some node.rule) (ha : node.rule.alternatives[node.alternative]? = some a)
    (hparts : Forest.Fits g a parts) : (⟨node, parts⟩ : Tree).IsOf g := by
  have hmatched : (⟨node, parts⟩ : Tree).matched = a := by
    rw [matched, rule, ha]
    rfl
  refine ⟨?_, hmatched.symm ▸ ha, hmatched.symm ▸ hparts⟩
  rw [rule, (Grammar.find?_eq_some hf).2]
  exact hf

lemma Forest.Fits.isOf {items : List Item} {f : Forest} (h : Fits g items f) : ∀ m ∈ f.trees, m.IsOf g := by
  induction h with
  | nil => simp [trees]
  | token _ _ ih => exact ih
  | tree hf ha hparts _ ihparts ih =>
    exact List.forall_mem_cons.mpr ⟨Tree.isOf_of_fits hf ha hparts, List.forall_mem_append.mpr ⟨ihparts, ih⟩⟩

lemma Tree.infix_of_node (hm : m ∈ t.forest.trees) : m.parts.tokens <:+: t.parts.tokens := by
  have hinfix := Forest.infix_of_mem_trees hm
  rwa [show t.forest.tokens = t.parts.tokens from List.append_nil _] at hinfix

namespace Grammar.Matches

variable (h : g.Matches limit sc s t)
include h

lemma extent : (∃ name, Forest.Fits g [.rule name] t.forest) ∧ sc.Yields s t.parts.tokens t.stop := by
  cases h with
  | @rule name depth _ hr =>
    obtain ⟨hfit, ha⟩ := (attemptRule_extent name s depth).result _ hr
    exact ⟨⟨name, hfit⟩, ha.yields⟩
  | @alternative r i a depth _ hf halt hr =>
    obtain ⟨hrule, hi, hfit, ha⟩ := (attemptAlternative_extent r i a s depth).result _ hr
    exact ⟨⟨r.name, .tree (hrule ▸ hf) (hrule ▸ hi ▸ halt) hfit .nil⟩, ha.yields⟩

lemma yields : sc.Yields s t.parts.tokens t.stop := h.extent.2

lemma isOf (hm : m ∈ t.forest.trees) : m.IsOf g := by
  obtain ⟨⟨name, hfit⟩, -⟩ := h.extent
  exact hfit.isOf m hm

end Grammar.Matches

end GlowSyntax
