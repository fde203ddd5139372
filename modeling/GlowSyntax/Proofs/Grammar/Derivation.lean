import GlowSyntax.Grammar.Validation
import Mathlib.Data.List.Nodup

namespace GlowSyntax

namespace Grammar

variable {g : Grammar} {r : Rule} {n : String}

lemma find?_eq_none : g.find? n = none ↔ n ∉ g.names := by
  simp [find?, names]

lemma find?_eq_some (h : g.find? n = some r) : r ∈ g.rules ∧ r.name = n := by
  refine ⟨List.mem_of_find?_eq_some h, ?_⟩
  simpa using List.find?_some h

lemma find?_of_mem (hr : r ∈ g.rules) : g.find? r.name = some r := by
  cases hf : g.find? r.name with
  | none => exact absurd (List.mem_map_of_mem hr) (find?_eq_none.mp hf)
  | some s =>
    obtain ⟨hs, hname⟩ := find?_eq_some hf
    rw [List.inj_on_of_nodup_map g.distinct hs hr hname]

lemma length_names : g.names.length = g.size := List.length_map _

lemma rules_foldl {rs : List Rule} (h : (g.names ++ rs.map Rule.name).Nodup) :
    (rs.foldl define g).rules = g.rules ++ rs := by
  induction rs generalizing g with
  | nil => exact (List.append_nil _).symm
  | cons r rs ih =>
    have hnew : r.name ∉ g.names := fun hmem => (List.disjoint_of_nodup_append h) hmem List.mem_cons_self
    have hrules : (g.define r).rules = g.rules ++ [r] := by
      rw [define, dif_neg hnew]
    rw [List.foldl_cons, ih, hrules, List.append_assoc, List.singleton_append]
    rw [names, hrules, List.map_append, List.append_assoc]
    exact h

lemma rules_ofRules {rs : List Rule} (h : (rs.map Rule.name).Nodup) : (ofRules rs).rules = rs :=
  rules_foldl h

lemma validate_eq_ok (hv : g.validate = .ok ()) : g.dangling? = none ∧ g.leftRecursion? = none := by
  unfold validate at hv
  split at hv
  · cases hv
  · next hd =>
    split at hv
    · cases hv
    · next hl => exact ⟨hd, hl⟩

lemma references_subset (hv : g.validate = .ok ()) (hr : r ∈ g.rules) : r.references ⊆ g.names := by
  intro n hn
  by_contra hnot
  have hfind := List.findSome?_eq_none_iff.mp (validate_eq_ok hv).1 r hr
  rw [Option.map_eq_none_iff, List.find?_eq_none] at hfind
  simpa [contains, hnot] using hfind n hn

end Grammar

inductive Derives (g : Grammar) : List Item → List Kind → Prop
  | nil : Derives g [] []
  | token {k label items w} : Derives g items w → Derives g (⟨.token k, label⟩ :: items) (k :: w)
  | rule {name label items r a u w} : g.find? name = some r → a ∈ r.alternatives → Derives g a u →
      Derives g items w → Derives g (⟨.rule name, label⟩ :: items) (u ++ w)

def Grammar.DerivesEmpty (g : Grammar) (name : String) : Prop :=
  ∃ r, g.find? name = some r ∧ ∃ a ∈ r.alternatives, Derives g a []

def Spells (language : String → List Kind → Prop) : List Item → List Kind → Prop
  | [], w => w = []
  | ⟨.token k, _⟩ :: items, w => ∃ v, w = k :: v ∧ Spells language items v
  | ⟨.rule name, _⟩ :: items, w => ∃ u v, w = u ++ v ∧ language name u ∧ Spells language items v

lemma Derives.spells {g : Grammar} {language : String → List Kind → Prop} {items : List Item} {w : List Kind}
    (hl : ∀ r ∈ g.rules, ∀ a ∈ r.alternatives, ∀ w, Spells language a w → language r.name w)
    (h : Derives g items w) : Spells language items w := by
  induction h with
  | nil => rfl
  | token _ ih => exact ⟨_, rfl, ih⟩
  | rule hf ha _ _ ihu ihw =>
    obtain ⟨hr, rfl⟩ := Grammar.find?_eq_some hf
    exact ⟨_, _, rfl, hl _ hr _ ha _ ihu, ihw⟩

end GlowSyntax
