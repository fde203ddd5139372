import GlowSyntax.Proofs.Grammar.Sweep
import GlowSyntax.Proofs.Match.Extent
import GlowSyntax.Proofs.Match.TokenList

namespace GlowSyntax

def Forest.trees : Forest → List Tree
  | nil => []
  | token _ _ rest => rest.trees
  | tree _ node parts rest => ⟨node, parts⟩ :: (parts.trees ++ rest.trees)

/-- The matches that the matcher makes of the rules of a grammar, at any depth of its attempts and whatever becomes
of them later. -/
inductive Grammar.Makes (g : Grammar) (limit : Nat) (sc : Scanner) : Tree → Prop
  | rule {n name s depth parent t} : (matchNested g limit sc n name s depth parent).result = .ok (some t) →
      Makes g limit sc t
  | alternative {n r frame s depth i a t} : g.find? r.name = some r → r.alternatives[i]? = some a →
      (matchAlternative sc (matchNested g limit sc n) r frame s depth i a).result = .ok (some t) →
      Makes g limit sc t

variable {g : Grammar} {limit : Nat} {sc : Scanner}

lemma Forest.Fits.nullable {items : List Item} {f : Forest} (h : Fits g items f) :
    ∀ t ∈ f.trees, t.parts.tokens = [] → t.rule.name ∈ g.nullable := by
  induction h with
  | nil => simp [trees]
  | token _ _ ih => exact ih
  | @tree name label node a parts items rest hf ha hparts _ ihp ih =>
    refine List.forall_mem_cons.mpr ⟨fun hempty => ?_, List.forall_mem_append.mpr ⟨ihp, ih⟩⟩
    have hderives : Derives g a [] := by simpa [show parts.tokens = [] from hempty] using hparts.derives
    exact g.nullable_closed _ (Grammar.find?_eq_some hf).1 a (List.mem_of_getElem? ha) (hderives.isNullable rfl)

lemma Grammar.Makes.fits {t : Tree} (h : g.Makes limit sc t) : ∃ name, Forest.Fits g [.rule name] t.forest := by
  cases h with
  | @rule n name s depth parent t hr => exact ⟨name, ((matchNested_extent n name s depth parent).result _ hr).1⟩
  | @alternative n r frame s depth i a t hf ha hr =>
    obtain ⟨hrule, hi, hfit, -⟩ := (matchAlternative_extent (matchNested_extent n) r s depth i a).result _ hr
    exact ⟨r.name, .tree (hrule ▸ hf) (hrule ▸ hi ▸ ha) hfit .nil⟩

/-- The search in place comes to an end, and what it finds are the nullable rules; they are the rules that derive the
empty sequence, whatever the order of the rules; and a match without a token is one of a nullable rule. -/
theorem nullable_exact (g : Grammar) :
    (∃ found, g.saturate (g.size + 1) [] = some found ∧ ∀ name, name ∈ found ↔ name ∈ g.nullable) ∧
    (∀ name, name ∈ g.nullable ↔ g.DerivesEmpty name) ∧
    ∀ limit sc t, g.Makes limit sc t → ∀ m ∈ t.forest.trees, m.parts.tokens = [] → m.rule.name ∈ g.nullable := by
  refine ⟨?_, fun name => Grammar.mem_nullable_iff, fun limit sc t h => ?_⟩
  · obtain ⟨found, hfound, hmem⟩ := g.saturate_eq_some
    exact ⟨found, hfound, fun name => (hmem name).trans Grammar.mem_nullable_iff.symm⟩
  · obtain ⟨name, hfit⟩ := h.fits
    exact hfit.nullable

def listRules : Grammar :=
  .ofRules [⟨"list", [[.rule "item", .rule "list"], []]⟩, ⟨"item", [[.token .identifier], [.token .plus, .rule "lost"]]⟩]

def listRun : Run (Option Tree) := attemptRule listRules 256 (.glow (.ofText "list" ";")) "list" .start 0

theorem nullable_exact_list :
    (∃ t, listRun.result = .ok (some t) ∧ t.parts.tokens = [] ∧ t.rule.name ∈ listRules.nullable) ∧
    listRules.DerivesEmpty "list" ∧ ¬ listRules.DerivesEmpty "item" ∧ ¬ listRules.DerivesEmpty "lost" := by
  obtain ⟨-, hmem, hmade⟩ := nullable_exact listRules
  have hnullable : listRules.nullable = ["list"] := by decide +kernel
  refine ⟨?_, (hmem _).mp (by simp [hnullable]), fun h => ?_, fun h => ?_⟩
  · have hrun : (listRun.result.toOption.join.filter (·.parts.tokens.isEmpty)).isSome = true := by decide +kernel
    obtain ⟨t, ht⟩ := Option.isSome_iff_exists.mp hrun
    obtain ⟨ht, hempty⟩ := Option.filter_eq_some_iff.mp ht
    have hr := Option.join_eq_some_iff.mp ht
    have hempty : t.parts.tokens = [] := by simpa using hempty
    have hresult := eq_ok_of_toOption hr
    exact ⟨t, hresult, hempty, hmade 256 _ t (.rule hresult) t List.mem_cons_self hempty⟩
  · simpa [hnullable] using (hmem _).mpr h
  · simpa [hnullable] using (hmem _).mpr h

end GlowSyntax
