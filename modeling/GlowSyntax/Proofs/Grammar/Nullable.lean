import GlowSyntax.Proofs.Grammar.Derivation
import Mathlib.Order.Nat

namespace GlowSyntax

namespace Alternative

variable {xs ys : List String} {a : Alternative}

lemma isNullable_cons {i : Item} :
    isNullable xs (i :: a) = true ↔ (∃ n ∈ xs, i.symbol = .rule n) ∧ isNullable xs a = true := by
  obtain ⟨symbol, label⟩ := i
  cases symbol <;> simp [isNullable, Item.reference?]

lemma isNullable_mono (h : xs ⊆ ys) (ha : isNullable xs a = true) : isNullable ys a = true := by
  induction a with
  | nil => rfl
  | cons i a ih =>
    obtain ⟨⟨n, hn, hi⟩, hrest⟩ := isNullable_cons.mp ha
    exact isNullable_cons.mpr ⟨⟨n, h hn, hi⟩, ih hrest⟩

lemma derives_nil {g : Grammar} (h : ∀ name ∈ xs, g.DerivesEmpty name) (ha : isNullable xs a = true) :
    Derives g a [] := by
  induction a with
  | nil => exact .nil
  | cons i a ih =>
    obtain ⟨symbol, label⟩ := i
    obtain ⟨⟨name, hname, rfl⟩, hrest⟩ := isNullable_cons.mp ha
    obtain ⟨r, hf, b, hb, hd⟩ := h name hname
    exact .rule hf hb hd (ih hrest)

end Alternative

namespace Grammar

variable {g : Grammar}

def ClosedUnder (g : Grammar) (names : List String) : Prop :=
  ∀ r ∈ g.rules, ∀ a ∈ r.alternatives, a.isNullable names = true → r.name ∈ names

lemma length_nullableWithin (g : Grammar) (n : Nat) : (g.nullableWithin n).length ≤ g.size := by
  cases n with
  | zero => exact Nat.zero_le _
  | succ n => exact (List.length_map _).trans_le (List.length_filter_le ..)

lemma nullableWithin_sublist (g : Grammar) (n : Nat) :
    (g.nullableWithin n).Sublist (g.nullableWithin (n + 1)) := by
  induction n with
  | zero => exact List.nil_sublist _
  | succ n ih =>
    refine (List.monotone_filter_right g.rules fun r hr => ?_).map Rule.name
    obtain ⟨a, ha, hn⟩ := List.any_eq_true.mp hr
    exact List.any_eq_true.mpr ⟨a, ha, Alternative.isNullable_mono ih.subset hn⟩

lemma nullableWithin_grows (g : Grammar) (n : Nat) :
    n ≤ (g.nullableWithin n).length ∨ g.nullableWithin (n + 1) = g.nullableWithin n := by
  induction n with
  | zero => exact Or.inl (Nat.zero_le _)
  | succ n ih =>
    by_cases hstable : g.nullableWithin (n + 1) = g.nullableWithin n
    · refine Or.inr ?_
      rw [nullableWithin, hstable]
      exact hstable
    · -- A round that changes the list makes it longer, as nothing is lost.
      have hlt : (g.nullableWithin n).length < (g.nullableWithin (n + 1)).length := by
        by_contra hle
        exact hstable ((g.nullableWithin_sublist n).eq_of_length_le (not_lt.mp hle)).symm
      rcases ih with hn | hn
      · exact Or.inl (by omega)
      · exact absurd hn hstable

lemma nullableWithin_size (g : Grammar) : g.nullableWithin (g.size + 1) = g.nullable := by
  rcases g.nullableWithin_grows g.size with hsize | hstable
  · have hle := g.length_nullableWithin (g.size + 1)
    exact ((g.nullableWithin_sublist g.size).eq_of_length_le (hle.trans hsize)).symm
  · exact hstable

lemma nullable_closed (g : Grammar) : g.ClosedUnder g.nullable := by
  intro r hr a ha hn
  rw [← nullableWithin_size, nullableWithin]
  exact List.mem_map_of_mem (List.mem_filter.mpr ⟨hr, List.any_eq_true.mpr ⟨a, ha, hn⟩⟩)

lemma derivesEmpty_of_mem {r : Rule} {a : Alternative} {names : List String}
    (h : ∀ name ∈ names, g.DerivesEmpty name) (hr : r ∈ g.rules) (ha : a ∈ r.alternatives)
    (hn : a.isNullable names = true) : g.DerivesEmpty r.name :=
  ⟨r, find?_of_mem hr, a, ha, Alternative.derives_nil h hn⟩

lemma nullableWithin_derives (n : Nat) : ∀ name ∈ g.nullableWithin n, g.DerivesEmpty name := by
  induction n with
  | zero => simp [nullableWithin]
  | succ n ih =>
    intro name h
    obtain ⟨r, hr, rfl⟩ := List.mem_map.mp h
    obtain ⟨hr, hany⟩ := List.mem_filter.mp hr
    obtain ⟨a, ha, hn⟩ := List.any_eq_true.mp hany
    exact derivesEmpty_of_mem ih hr ha hn

end Grammar

lemma Derives.isNullable_of_closed {g : Grammar} {names : List String} {a : Alternative} {w : List Kind}
    (hc : g.ClosedUnder names) (h : Derives g a w) (hw : w = []) : a.isNullable names = true := by
  induction h with
  | nil => rfl
  | token => cases hw
  | rule hf ha _ _ ihu ihw =>
    obtain ⟨hu, hw⟩ := List.append_eq_nil_iff.mp hw
    obtain ⟨hr, rfl⟩ := Grammar.find?_eq_some hf
    exact Alternative.isNullable_cons.mpr ⟨⟨_, hc _ hr _ ha (ihu hu), rfl⟩, ihw hw⟩

lemma Derives.isNullable {g : Grammar} {a : Alternative} {w : List Kind} (h : Derives g a w) (hw : w = []) :
    a.isNullable g.nullable = true :=
  h.isNullable_of_closed g.nullable_closed hw

lemma Grammar.mem_iff_derivesEmpty {g : Grammar} {names : List String} {name : String} (hc : g.ClosedUnder names)
    (hs : ∀ name ∈ names, g.DerivesEmpty name) : name ∈ names ↔ g.DerivesEmpty name := by
  refine ⟨hs name, ?_⟩
  rintro ⟨r, hf, a, ha, hd⟩
  obtain ⟨hr, rfl⟩ := find?_eq_some hf
  exact hc r hr a ha (hd.isNullable_of_closed hc rfl)

lemma Grammar.mem_nullable_iff {g : Grammar} {name : String} : name ∈ g.nullable ↔ g.DerivesEmpty name :=
  mem_iff_derivesEmpty g.nullable_closed (nullableWithin_derives g.size)

end GlowSyntax
