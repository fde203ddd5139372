import GlowSyntax.Proofs.Grammar.Derivation
import Mathlib.Logic.Relation

namespace GlowSyntax

namespace Grammar

inductive Rewrites (g : Grammar) : List Symbol → List Symbol → Prop
  | replace {before after name r a} : g.find? name = some r → a ∈ r.alternatives →
      Rewrites g (before ++ .rule name :: after) (before ++ a.map Item.symbol ++ after)

def Generates (g : Grammar) : List Symbol → List Symbol → Prop := Relation.ReflTransGen g.Rewrites

namespace Generates

variable {g : Grammar} {xs ys zs us vs : List Symbol} {name : String} {r : Rule} {a : Alternative}

lemma append_left (zs : List Symbol) (h : g.Generates xs ys) : g.Generates (zs ++ xs) (zs ++ ys) := by
  refine Relation.ReflTransGen.lift (zs ++ ·) ?_ _ _ h
  rintro _ _ @⟨before, after, _, _, _, hf, ha⟩
  simpa [Function.onFun] using @Rewrites.replace g (zs ++ before) after _ _ _ hf ha

lemma append_right (zs : List Symbol) (h : g.Generates xs ys) : g.Generates (xs ++ zs) (ys ++ zs) := by
  refine Relation.ReflTransGen.lift (· ++ zs) ?_ _ _ h
  rintro _ _ @⟨before, after, _, _, _, hf, ha⟩
  simpa [Function.onFun] using @Rewrites.replace g before (after ++ zs) _ _ _ hf ha

lemma append (h : g.Generates xs us) (h' : g.Generates ys vs) : g.Generates (xs ++ ys) (us ++ vs) :=
  (h.append_right ys).trans (h'.append_left us)

lemma cons (x : Symbol) (h : g.Generates xs ys) : g.Generates (x :: xs) (x :: ys) := h.append_left [x]

lemma rule (hf : g.find? name = some r) (ha : a ∈ r.alternatives) (h : g.Generates (a.map Item.symbol) ys) :
    g.Generates [.rule name] ys := by
  refine Relation.ReflTransGen.head ?_ h
  simpa using @Rewrites.replace g [] [] _ _ _ hf ha

end Generates

end Grammar

lemma Derives.generates {g : Grammar} {items : List Item} {w : List Kind} (h : Derives g items w) :
    g.Generates (items.map Item.symbol) (w.map Symbol.token) := by
  induction h with
  | nil => exact .refl
  | token _ ih => exact ih.cons _
  | rule hf ha _ _ ihu ihw =>
    rw [List.map_append]
    exact (Grammar.Generates.rule hf ha ihu).append ihw

/-- The items can match something that begins with the kinds, whatever is left of the alternatives that are
not matched to their end. -/
inductive Begins (g : Grammar) : List Item → List Kind → Prop
  | nil {items} : Begins g items []
  | token {k label items w} : Begins g items w → Begins g (⟨.token k, label⟩ :: items) (k :: w)
  | inside {name label items r a w} : g.find? name = some r → a ∈ r.alternatives → Begins g a w →
      Begins g (⟨.rule name, label⟩ :: items) w
  | behind {name label items r a u w} : g.find? name = some r → a ∈ r.alternatives → Derives g a u →
      Begins g items w → Begins g (⟨.rule name, label⟩ :: items) (u ++ w)

namespace Begins

variable {g : Grammar} {items : List Item} {w : List Kind}

lemma generates (h : Begins g items w) :
    ∃ rest, g.Generates (items.map Item.symbol) (w.map Symbol.token ++ rest) := by
  induction h with
  | nil => exact ⟨_, .refl⟩
  | token _ ih =>
    obtain ⟨rest, h⟩ := ih
    exact ⟨rest, h.cons _⟩
  | @inside name label items r a w hf ha _ ih =>
    obtain ⟨rest, h⟩ := ih
    refine ⟨rest ++ items.map Item.symbol, ?_⟩
    rw [← List.append_assoc]
    exact (Grammar.Generates.rule hf ha h).append_right _
  | behind hf ha hu _ ih =>
    obtain ⟨rest, h⟩ := ih
    refine ⟨rest, ?_⟩
    rw [List.map_append, List.append_assoc]
    exact (Grammar.Generates.rule hf ha hu.generates).append h

lemma exists_spells {language : String → List Kind → Prop} (hne : ∀ name, ∃ u, language name u)
    (items : List Item) : ∃ v, Spells language items v := by
  induction items with
  | nil => exact ⟨[], rfl⟩
  | cons item items ih =>
    obtain ⟨v, hv⟩ := ih
    obtain ⟨k | name, label⟩ := item
    · exact ⟨k :: v, v, rfl, hv⟩
    · obtain ⟨u, hu⟩ := hne name
      exact ⟨u ++ v, u, v, rfl, hu, hv⟩

lemma spells {language : String → List Kind → Prop} (hne : ∀ name, ∃ u, language name u)
    (hl : ∀ r ∈ g.rules, ∀ a ∈ r.alternatives, ∀ w, Spells language a w → language r.name w)
    (h : Begins g items w) : ∃ v, Spells language items (w ++ v) := by
  induction h with
  | nil => exact exists_spells hne _
  | token _ ih =>
    obtain ⟨v, hv⟩ := ih
    exact ⟨v, _, rfl, hv⟩
  | @inside name label items r a w hf ha _ ih =>
    obtain ⟨hr, rfl⟩ := Grammar.find?_eq_some hf
    obtain ⟨v, hv⟩ := ih
    obtain ⟨v', hv'⟩ := exists_spells hne items
    exact ⟨v ++ v', w ++ v, v', by simp, hl r hr a ha _ hv, hv'⟩
  | @behind name label items r a u w hf ha hu _ ih =>
    obtain ⟨hr, rfl⟩ := Grammar.find?_eq_some hf
    obtain ⟨v, hv⟩ := ih
    exact ⟨v, u, w ++ v, by simp, hl r hr a ha u (hu.spells hl), hv⟩

end Begins

end GlowSyntax
