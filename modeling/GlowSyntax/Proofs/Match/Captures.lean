import GlowSyntax.Proofs.Match.Parts
import Mathlib.Data.String.Basic

namespace GlowSyntax

section InsertMissing

variable {β : Type} {l : String} {b c : β} {es fs : List (String × β)} {x : String × β}

lemma mem_of_mem_insertMissing (h : x ∈ insertMissing l b es) : x = (l, b) ∨ x ∈ es := by
  induction es with
  | nil => exact Or.inl (List.mem_singleton.mp h)
  | cons e es ih =>
    rw [insertMissing] at h
    split at h
    · exact List.mem_cons.mp h
    · split at h
      · exact Or.inr h
      · rcases List.mem_cons.mp h with rfl | h
        · exact Or.inr List.mem_cons_self
        · exact (ih h).imp_right (List.mem_cons_of_mem e)

lemma filter_insertMissing (h : ∀ e ∈ es, e.1 ≠ l) : (insertMissing l b es).filter (·.1 ≠ l) = es := by
  induction es with
  | nil => simp [insertMissing]
  | cons e es ih =>
    obtain ⟨he, hes⟩ := List.forall_mem_cons.mp h
    rw [insertMissing, if_neg (Ne.symm he)]
    split
    · rw [List.filter_cons_of_neg (by simp)]
      exact List.filter_eq_self.mpr (by simpa using h)
    · rw [List.filter_cons_of_pos (by simpa using he), ih hes]

lemma lookup_insertMissing (h : ∀ e ∈ es, e.1 ≠ l) : (insertMissing l b es).lookup l = some b := by
  induction es with
  | nil => simp [insertMissing]
  | cons e es ih =>
    obtain ⟨he, hes⟩ := List.forall_mem_cons.mp h
    rw [insertMissing, if_neg (Ne.symm he)]
    split
    · simp
    · have hne : (l == e.1) = false := by simpa using Ne.symm he
      rw [List.lookup_cons, hne]
      exact ih hes

lemma insertMissing_inj (h : ∀ e ∈ es, e.1 ≠ l) (h' : ∀ e ∈ fs, e.1 ≠ l)
    (heq : insertMissing l b es = insertMissing l c fs) : b = c ∧ es = fs := by
  constructor
  · have hlookup := congrArg (List.lookup l) heq
    rw [lookup_insertMissing h, lookup_insertMissing h'] at hlookup
    exact Option.some.inj hlookup
  · rw [← filter_insertMissing (b := b) h, heq, filter_insertMissing h']

lemma lookup_insertMissing_of_ne {k : String} (hk : k ≠ l) : (insertMissing l b es).lookup k = es.lookup k := by
  have hne : (k == l) = false := by simpa using hk
  induction es with
  | nil => rw [insertMissing, List.lookup_cons, hne]
  | cons e es ih =>
    rw [insertMissing]
    split
    · rw [List.lookup_cons, hne]
    · split
      · rfl
      · rw [List.lookup_cons, List.lookup_cons, ih]

lemma lookup_insertMissing_self (hes : es.Pairwise fun x y => x.1 < y.1) :
    (insertMissing l b es).lookup l = (es.lookup l).or (some b) := by
  induction es with
  | nil => simp [insertMissing]
  | cons e es ih =>
    obtain ⟨he, hes⟩ := List.pairwise_cons.mp hes
    rw [insertMissing]
    split
    · next hlt =>
      -- All labels are greater, so it is not there.
      have hmissing : (e :: es).lookup l = none := by
        refine List.lookup_eq_none_iff.mpr (List.forall_mem_cons.mpr ⟨?_, fun x hx => ?_⟩)
        · simpa using ne_of_lt hlt
        · simpa using ne_of_lt (hlt.trans (he x hx))
      rw [hmissing, List.lookup_cons_self]
      rfl
    · split
      · next heq => rw [heq, List.lookup_cons_self]; rfl
      · next hne =>
        have hne : (l == e.1) = false := by simpa using hne
        rw [List.lookup_cons, List.lookup_cons, hne]
        exact ih hes

lemma lookup_insertMissing_of_sorted {k : String} (hes : es.Pairwise fun x y => x.1 < y.1) :
    (insertMissing l b es).lookup k = (es.lookup k).or ([(some l, b)].lookup (some k)) := by
  by_cases hk : k = l
  · rw [hk, lookup_insertMissing_self hes, List.lookup_cons_self]
  · have hnone : [(some l, b)].lookup (some k) = none := by simpa using hk
    rw [lookup_insertMissing_of_ne hk, hnone, Option.or_none]

lemma mem_labels_insertMissing {k : String} :
    k ∈ (insertMissing l b es).map (·.1) ↔ k = l ∨ k ∈ es.map (·.1) := by
  induction es with
  | nil => simp [insertMissing]
  | cons e es ih =>
    rw [insertMissing]
    split
    · rw [List.map_cons, List.mem_cons]
    · split
      · next heq => simp [heq]
      · rw [List.map_cons, List.mem_cons, ih, List.map_cons, List.mem_cons]
        exact or_left_comm

lemma insertMissing_sorted (hes : es.Pairwise fun x y => x.1 < y.1) :
    (insertMissing l b es).Pairwise fun x y => x.1 < y.1 := by
  induction es with
  | nil => exact List.pairwise_singleton _ _
  | cons e es ih =>
    obtain ⟨he, hrest⟩ := List.pairwise_cons.mp hes
    rw [insertMissing]
    split
    · next hlt => exact List.pairwise_cons.mpr ⟨List.forall_mem_cons.mpr ⟨hlt, fun x hx => hlt.trans (he x hx)⟩, hes⟩
    · split
      · exact hes
      · next hlt hne =>
        have hgt : e.1 < l := lt_of_le_of_ne (not_lt.mp hlt) (Ne.symm hne)
        refine List.pairwise_cons.mpr ⟨fun x hx => ?_, ih hrest⟩
        rcases mem_of_mem_insertMissing hx with rfl | hx
        · exact hgt
        · exact he x hx

lemma insertMissing_perm (h : ∀ e ∈ es, e.1 ≠ l) : (insertMissing l b es).Perm ((l, b) :: es) := by
  induction es with
  | nil => exact .refl _
  | cons e es ih =>
    obtain ⟨he, hes⟩ := List.forall_mem_cons.mp h
    rw [insertMissing, if_neg (Ne.symm he)]
    split
    · exact .refl _
    · exact ((ih hes).cons e).trans (.swap _ _ _)

end InsertMissing

namespace Alternative

def labels (a : Alternative) : List String := a.filterMap Item.label

lemma mem_labels {a : Alternative} {l : String} : l ∈ a.labels ↔ some l ∈ a.map Item.label := by
  simp [labels]

lemma labels_sublist (i : Item) (items : List Item) : (labels items).Sublist (labels (i :: items)) :=
  (List.sublist_cons_self i items).filterMap Item.label

lemma not_mem_labels {symbol : Symbol} {l : String} {items : List Item}
    (h : (labels (⟨symbol, some l⟩ :: items)).Nodup) : l ∉ labels items :=
  (List.nodup_cons.mp h).1

end Alternative

namespace Forest

section Collect

variable {β : Type} {onToken : Token → β} {onTree : Node → Forest → List (String × β) → β}

lemma mem_labels_collect {l : String} (f : Forest) :
    l ∈ (f.collect onToken onTree).map (·.1) ↔ some l ∈ f.pieces.map (·.1) := by
  induction f with
  | nil => simp [collect, pieces]
  | token label t rest ih | tree label _ _ rest _ ih =>
    cases label with
    | none => simpa [collect, pieces] using ih
    | some l' => simpa [collect, pieces, eq_comm] using mem_labels_insertMissing.trans (or_congr_right ih)

lemma collect_sorted (f : Forest) : (f.collect onToken onTree).Pairwise fun x y => x.1 < y.1 := by
  induction f with
  | nil => exact .nil
  | token label t rest ih | tree label _ _ rest _ ih =>
    cases label with
    | none => exact ih
    | some l => exact insertMissing_sorted ih

end Collect

lemma lookup_captures (f : Forest) (l : String) : f.captures.lookup l = f.pieces.reverse.lookup (some l) := by
  induction f with
  | nil => rfl
  | token label t rest ih | tree label node parts rest _ ih =>
    rw [pieces, List.reverse_cons, List.lookup_append, ← ih]
    cases label with
    | none => exact (Option.or_none).symm
    | some l' => exact lookup_insertMissing_of_sorted rest.collect_sorted

end Forest

inductive Symbol.Gives (g : Grammar) : Symbol → Capture → Prop
  | token {k t} : t.kind = k → Gives g (.token k) (.token t)
  | rule {name t} : g.find? name = some t.rule → Gives g (.rule name) (.tree t)

variable {g : Grammar} {limit : Nat} {sc : Scanner} {s : ScanState} {t m : Tree} {items before after : List Item}
  {item : Item} {f : Forest} {l : String} {c : Capture}

namespace Forest.Fits

lemma labels_pieces (h : Fits g items f) : f.pieces.map (·.1) = items.map Item.label := by
  induction h with
  | nil => rfl
  | token _ _ ih => rw [pieces, List.map_cons, ih, List.map_cons]
  | tree _ _ _ _ _ ih => rw [pieces, List.map_cons, ih, List.map_cons]

section Collect

variable {β : Type} {onToken : Token → β} {onTree : Node → Forest → List (String × β) → β}

lemma mem_labels (h : Fits g items f) : l ∈ (f.collect onToken onTree).map (·.1) ↔ l ∈ Alternative.labels items := by
  rw [mem_labels_collect, h.labels_pieces, Alternative.mem_labels]

lemma ne_label (h : Fits g items f) (hl : l ∉ Alternative.labels items) : ∀ e ∈ f.collect onToken onTree, e.1 ≠ l := by
  rintro e he rfl
  exact hl (h.mem_labels.mp (List.mem_map_of_mem he))

end Collect

lemma piece (h : Fits g (before ++ item :: after) f) : ∃ ps c qs, f.pieces = ps ++ (item.label, c) :: qs ∧
    ps.length = before.length ∧ qs.map (·.1) = after.map Item.label ∧ item.symbol.Gives g c := by
  induction before generalizing f with
  | nil =>
    rw [List.nil_append] at h
    cases h with
    | token hk hrest => exact ⟨[], _, _, rfl, rfl, hrest.labels_pieces, .token hk⟩
    | tree hf _ _ hrest => exact ⟨[], _, _, rfl, rfl, hrest.labels_pieces, .rule hf⟩
  | cons first before ih =>
    rw [List.cons_append] at h
    cases h with
    | token _ hrest | tree _ _ _ hrest =>
      obtain ⟨ps, c, qs, hpieces, hlength, hafter, hgives⟩ := ih hrest
      exact ⟨_ :: ps, c, qs, by rw [pieces, hpieces, List.cons_append], by simp [hlength], hafter, hgives⟩

lemma lookup_last (h : Fits g (before ++ item :: after) f) (hl : item.label = some l)
    (hlast : l ∉ Alternative.labels after) :
    ∃ c, f.pieces[before.length]? = some (some l, c) ∧ item.symbol.Gives g c ∧ f.captures.lookup l = some c := by
  obtain ⟨ps, c, qs, hpieces, hlength, hafter, hgives⟩ := h.piece
  rw [hl] at hpieces
  have hbehind : qs.reverse.lookup (some l) = none := by
    rw [Alternative.mem_labels, ← hafter, List.mem_map] at hlast
    refine List.lookup_eq_none_iff.mpr fun p hp => ?_
    have hne : some l ≠ p.1 := fun heq => hlast ⟨p, List.mem_reverse.mp hp, heq.symm⟩
    simpa using hne
  refine ⟨c, ?_, hgives, ?_⟩
  · rw [hpieces, ← hlength, List.getElem?_append_right le_rfl, Nat.sub_self, List.getElem?_cons_zero]
  · rw [lookup_captures, hpieces, List.reverse_append, List.reverse_cons, List.append_assoc, List.lookup_append,
      hbehind, Option.none_or, List.singleton_append, List.lookup_cons_self]

end Forest.Fits

namespace Tree

inductive Holds (g : Grammar) (t : Tree) (l : String) : Symbol → Capture → Prop
  | token {k x} : x.kind = k → t.capture l = .ok (.token x) → t.token l = .ok x →
      t.subtree l = .error (.notTree t.rule.name l) → Holds g t l (.token k) (.token x)
  | rule {name x} : g.find? name = some x.rule → x.rule.name = name → t.capture l = .ok (.tree x) →
      t.subtree l = .ok x → t.token l = .error (.notToken t.rule.name l) → Holds g t l (.rule name) (.tree x)

lemma holds_of_lookup {x : Symbol} (h : t.captures.lookup l = some c) (hx : x.Gives g c) : t.Holds g l x c := by
  have hcapture : t.capture l = .ok c := by rw [capture, h]
  cases hx with
  | token hk =>
    exact .token hk hcapture (by rw [token, hcapture]) (by rw [subtree, hcapture])
  | rule hf =>
    exact .rule hf (Grammar.find?_eq_some hf).2 hcapture (by rw [subtree, hcapture]) (by rw [token, hcapture])

structure Lacks (t : Tree) (l : String) : Prop where
  capture : t.capture l = .error (.missing t.rule.name l)
  token : t.token l = .error (.missing t.rule.name l)
  subtree : t.subtree l = .error (.missing t.rule.name l)

lemma lacks_of_not_mem (h : l ∉ t.labels) : t.Lacks l := by
  have hlookup : t.captures.lookup l = none := by
    refine List.lookup_eq_none_iff.mpr fun p hp => ?_
    have hne : l ≠ p.1 := fun heq => h (heq ▸ List.mem_map_of_mem hp)
    simpa using hne
  have hcapture : t.capture l = .error (.missing t.rule.name l) := by rw [Tree.capture, hlookup]
  exact ⟨hcapture, by rw [Tree.token, hcapture], by rw [Tree.subtree, hcapture]⟩

end Tree

theorem captures_of_labels (h : g.Matches limit sc s t) (hm : m ∈ t.forest.trees) :
    g.find? m.rule.name = some m.rule ∧ m.rule.alternatives[m.node.alternative]? = some m.matched ∧
    (∀ l, l ∈ m.labels ↔ l ∈ m.matched.labels) ∧
    (∀ before item after l, m.matched = before ++ item :: after → item.label = some l →
      l ∉ Alternative.labels after →
        ∃ c, m.parts.pieces[before.length]? = some (some l, c) ∧ m.Holds g l item.symbol c) ∧
    ∀ l, l ∉ m.matched.labels → m.Lacks l := by
  obtain ⟨hrule, halternative, hfits⟩ := h.isOf hm
  have hlabels : ∀ l, l ∈ m.labels ↔ l ∈ m.matched.labels := fun l => hfits.mem_labels
  refine ⟨hrule, halternative, hlabels, ?_, ?_⟩
  · intro before item after l heq hl hlast
    rw [heq] at hfits
    obtain ⟨c, hpiece, hgives, hlookup⟩ := hfits.lookup_last hl hlast
    exact ⟨c, hpiece, Tree.holds_of_lookup hlookup hgives⟩
  · intro l hl
    exact Tree.lacks_of_not_mem (mt (hlabels l).mp hl)

def shiftRules : Grammar := .ofRules [
  ⟨"shift", [
    [.tokenAs .identifier "base", .tokenAs .minus "op", .ruleAs "step" "by"],
    [.tokenAs .identifier "by", .tokenAs .plus "op", .ruleAs "step" "by"]]⟩,
  ⟨"step", [[.tokenAs .integer "by"]]⟩]

def shiftRun : Run (Option Tree) := attemptRule shiftRules 256 (.glow (.ofText "shift" "a + 1")) "shift" .start 0

theorem captures_of_labels_shift :
    ∃ t x, shiftRun.result = .ok (some t) ∧ t.subtree "by" = .ok x ∧ x.rule.name = "step" ∧
      t.token "by" = .error (.notToken t.rule.name "by") ∧ t.capture "base" = .error (.missing t.rule.name "base") := by
  have hrun : shiftRun.result.toOption.join.map Tree.matched =
      some [.tokenAs .identifier "by", .tokenAs .plus "op", .ruleAs "step" "by"] := by decide +kernel
  obtain ⟨t, ht, hmatched⟩ := Option.map_eq_some_iff.mp hrun
  have hresult := eq_ok_of_toOption (Option.join_eq_some_iff.mp ht)
  obtain ⟨-, -, -, hheld, hlacked⟩ := captures_of_labels (.rule hresult) List.mem_cons_self
  obtain ⟨c, -, hc⟩ := hheld [.tokenAs .identifier "by", .tokenAs .plus "op"] (.ruleAs "step" "by") [] "by" hmatched rfl
    (by simp [Alternative.labels])
  have hbase := hlacked "base" (by rw [hmatched]; decide)
  cases hc with
  | rule _ hname _ hsubtree htoken => exact ⟨t, _, hresult, hsubtree, hname, htoken, hbase.capture⟩

end GlowSyntax
