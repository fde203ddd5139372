import GlowSyntax.Output
import GlowSyntax.Proofs.Match.Captures
import GlowSyntax.Proofs.Match.Placeless

/-!
What a match written as JSON says about its tokens when the places are left out. The captures are told apart by their
labels, and the number of an alternative says which tokens stand between them.
-/

namespace GlowSyntax

namespace Json

mutual

def without (keys : List String) : Json → Json
  | null => null
  | number n => number n
  | string s => string s
  | array items => array (withoutItems keys items)
  | object members => object (withoutMembers keys members)

def withoutItems (keys : List String) : List Json → List Json
  | [] => []
  | j :: js => j.without keys :: withoutItems keys js

def withoutMembers (keys : List String) : List (String × Json) → List (String × Json)
  | [] => []
  | (k, j) :: ms => if k ∈ keys then withoutMembers keys ms else (k, j.without keys) :: withoutMembers keys ms

end

lemma withoutMembers_eq (keys : List String) (members : List (String × Json)) :
    withoutMembers keys members = (members.map (Prod.map id (without keys))).filter (·.1 ∉ keys) := by
  induction members with
  | nil => rw [withoutMembers, List.map_nil, List.filter_nil]
  | cons m members ih =>
    obtain ⟨k, j⟩ := m
    rw [withoutMembers, List.map_cons, ih]
    split
    · next hk => rw [List.filter_cons_of_neg (by simpa using hk)]
    · next hk =>
      rw [List.filter_cons_of_pos (by simpa using hk)]
      rfl

end Json

def placeKeys : List String := ["span", "line", "column"]

lemma Token.json_without (t : Token) : t.json.without placeKeys =
    .object [("content", .string t.content), ("kind", .string t.kind.name)] := by
  simp [json, placeKeys, Json.without, Json.withoutMembers]

namespace Node

variable {node node' : Node} {span span' : Option Span} {members members' : List (String × Json)}

lemma json_without : (node.json span members).without placeKeys = .object [("alternative", .number node.alternative),
    ("captures", .object (Json.withoutMembers placeKeys members)), ("rule", .string node.rule.name)] := by
  simp [json, placeKeys, Json.without, Json.withoutMembers]

lemma json_without_inj
    (h : (node.json span members).without placeKeys = (node'.json span' members').without placeKeys) :
    node.alternative = node'.alternative ∧
      Json.withoutMembers placeKeys members = Json.withoutMembers placeKeys members' := by
  simp only [json_without, Json.object.injEq, List.cons.injEq, Prod.mk.injEq, Json.number.injEq] at h
  exact ⟨h.1.2, h.2.1.2⟩

end Node

def Item.isTold (i : Item) : Bool :=
  i.label.isSome || match i.symbol with
    | .token k => k.spelling?.isSome
    | .rule _ => false

namespace Alternative

def Tells (a : Alternative) : Prop :=
  (∀ i ∈ a, i.isTold = true) ∧ a.labels.Nodup ∧ ∀ l ∈ a.labels, l ∉ placeKeys

instance (a : Alternative) : Decidable a.Tells := inferInstanceAs (Decidable (_ ∧ _))

lemma Tells.tail {i : Item} {items : List Item} (h : Tells (i :: items)) : Tells items := by
  obtain ⟨htold, hdistinct, hkeys⟩ := h
  have hsub := labels_sublist i items
  exact ⟨fun j hj => htold j (List.mem_cons_of_mem i hj), hdistinct.sublist hsub, fun l hl => hkeys l (hsub.subset hl)⟩

lemma tells_single (name : String) : Tells [.ruleAs name "match"] := by
  simp [Tells, labels, Item.isTold, Item.ruleAs, placeKeys]

end Alternative

namespace Forest

def members (f : Forest) : List (String × Json) :=
  f.collect Token.json fun node parts entries => node.json parts.span entries

def bare (f : Forest) : List (String × Json) := f.members.map (Prod.map id (Json.without placeKeys))

def Spelled (f : Forest) : Prop := ∀ t ∈ f.tokens, ∀ w, t.kind.spelling? = some w → t.content = w

variable {g : Grammar} {items : List Item} {f f' parts parts' rest rest' : Forest} {label : Option String}
  {l name : String} {k : Kind} {t t' : Token} {node node' : Node} {symbol : Symbol}

lemma bare_token (l : String) : (token (some l) t rest).bare = insertMissing l (t.json.without placeKeys) rest.bare :=
  map_insertMissing _ _ _ _

lemma bare_tree (l : String) : (tree (some l) node parts rest).bare =
    insertMissing l ((node.json parts.span parts.members).without placeKeys) rest.bare :=
  map_insertMissing _ _ _ _

lemma withoutMembers_of_bare (h : f.bare = f'.bare) :
    Json.withoutMembers placeKeys f.members = Json.withoutMembers placeKeys f'.members := by
  rw [Json.withoutMembers_eq, Json.withoutMembers_eq]
  exact congrArg _ h

-- The places of a match are in those members only that are left out.
lemma bare_placeless (f : Forest) : f.placeless.bare = f.bare := by
  induction f with
  | nil => rfl
  | token label t rest ih =>
    cases label with
    | none => exact ih
    | some l =>
      rw [placeless, bare_token, bare_token, ih, Token.json_without, Token.json_without]
      rfl
  | tree label node parts rest ihparts ih =>
    cases label with
    | none => exact ih
    | some l =>
      rw [placeless, bare_tree, bare_tree, ih, Node.json_without, Node.json_without, withoutMembers_of_bare ihparts]
      rfl

namespace Fits

lemma withoutMembers (h : Fits g items f) (hitems : Alternative.Tells items) :
    Json.withoutMembers placeKeys f.members = f.bare := by
  rw [Json.withoutMembers_eq]
  refine List.filter_eq_self.mpr fun m hm => ?_
  obtain ⟨m', hm', rfl⟩ := List.mem_map.mp hm
  simpa using hitems.2.2 _ (h.mem_labels.mp (List.mem_map_of_mem hm'))

lemma bare_ne_label (hitems : Alternative.Tells (⟨symbol, some l⟩ :: items)) (h : Fits g items f) :
    ∀ m ∈ f.bare, m.1 ≠ l := by
  intro m hm
  obtain ⟨m', hm', rfl⟩ := List.mem_map.mp hm
  exact h.ne_label (Alternative.not_mem_labels hitems.2.1) m' hm'

lemma content_eq_of_bare (hitems : Alternative.Tells (⟨.token k, label⟩ :: items)) (h : Fits g items rest)
    (h' : Fits g items rest') (hk : t.kind = k) (hk' : t'.kind = k) (hf : (Forest.token label t rest).Spelled)
    (hf' : (Forest.token label t' rest').Spelled)
    (hbare : (Forest.token label t rest).bare = (Forest.token label t' rest').bare) :
    t.content = t'.content ∧ rest.bare = rest'.bare := by
  cases label with
  | none =>
    obtain ⟨w, hw⟩ : ∃ w, k.spelling? = some w := Option.isSome_iff_exists.mp (hitems.1 _ List.mem_cons_self)
    have htext : t.content = w := hf t List.mem_cons_self w (hk ▸ hw)
    have htext' : t'.content = w := hf' t' List.mem_cons_self w (hk' ▸ hw)
    exact ⟨htext.trans htext'.symm, hbare⟩
  | some l =>
    rw [bare_token, bare_token] at hbare
    obtain ⟨hjson, hbare⟩ := insertMissing_inj (h.bare_ne_label hitems) (h'.bare_ne_label hitems) hbare
    simp only [Token.json_without, Json.object.injEq, List.cons.injEq, Prod.mk.injEq, Json.string.injEq] at hjson
    exact ⟨hjson.1.2, hbare⟩

lemma alternative_eq_of_bare (hitems : Alternative.Tells (⟨.rule name, label⟩ :: items)) (h : Fits g items rest)
    (h' : Fits g items rest')
    (hbare : (Forest.tree label node parts rest).bare = (Forest.tree label node' parts' rest').bare) :
    node.alternative = node'.alternative ∧
      Json.withoutMembers placeKeys parts.members = Json.withoutMembers placeKeys parts'.members ∧
      rest.bare = rest'.bare := by
  obtain ⟨l, rfl⟩ : ∃ l, label = some l := by
    have htold := hitems.1 _ List.mem_cons_self
    simpa [Item.isTold, Option.isSome_iff_exists] using htold
  rw [bare_tree, bare_tree] at hbare
  obtain ⟨hjson, hbare⟩ := insertMissing_inj (h.bare_ne_label hitems) (h'.bare_ne_label hitems) hbare
  obtain ⟨halternative, hcaptures⟩ := Node.json_without_inj hjson
  exact ⟨halternative, hcaptures, hbare⟩

-- By induction on the first match: the second one has tokens of the same kinds and trees of the same alternatives.
lemma placeless_eq (hg : ∀ r ∈ g.rules, ∀ a ∈ r.alternatives, a.Tells) (hitems : Alternative.Tells items)
    (h : Fits g items f) (h' : Fits g items f') (hf : f.Spelled) (hf' : f'.Spelled) (hbare : f.bare = f'.bare) :
    f.tokens.map Token.placeless = f'.tokens.map Token.placeless := by
  induction h generalizing f' with
  | nil =>
    cases h'
    rfl
  | @token k label t items rest hk hrest ih =>
    cases h' with
    | @token _ _ t' _ rest' hk' hrest' =>
      obtain ⟨hcontent, hbare⟩ := content_eq_of_bare hitems hrest hrest' hk hk' hf hf' hbare
      have htoken : t.placeless = t'.placeless := Token.placeless_eq_iff.mpr ⟨hk.trans hk'.symm, hcontent⟩
      have htokens := ih hitems.tail hrest' (List.forall_mem_cons.mp hf).2 (List.forall_mem_cons.mp hf').2 hbare
      simp only [tokens, List.map_cons, htoken, htokens]
  | @tree name label node a parts items rest hr ha hparts hrest ihparts ih =>
    cases h' with
    | @tree _ _ node' a' parts' _ rest' hr' ha' hparts' hrest' =>
      obtain ⟨halternative, hcaptures, hbare⟩ := alternative_eq_of_bare hitems hrest hrest' hbare
      have hrule : node.rule = node'.rule := Option.some.inj (hr.symm.trans hr')
      obtain rfl : a = a' := by
        rw [← hrule, ← halternative, ha] at ha'
        exact Option.some.inj ha'
      have htells := hg _ (List.mem_of_find?_eq_some hr) a (List.mem_of_getElem? ha)
      rw [hparts.withoutMembers htells, hparts'.withoutMembers htells] at hcaptures
      obtain ⟨hfparts, hfrest⟩ := List.forall_mem_append.mp hf
      obtain ⟨hfparts', hfrest'⟩ := List.forall_mem_append.mp hf'
      have hinner := ihparts htells hparts' hfparts hfparts' hcaptures
      have hbehind := ih hitems.tail hrest' hfrest hfrest' hbare
      simp only [tokens, List.map_append, hinner, hbehind]

lemma captured {tree : Tree} (h : Fits g [.rule name] tree.forest) (l : String) :
    Fits g [.ruleAs name l] (.tree (some l) tree.node tree.parts .nil) := by
  cases h with
  | tree hr ha hparts hnil => exact .tree hr ha hparts hnil

end Fits

end Forest

namespace Tree

variable {g : Grammar} {name : String} {t u : Tree}

lemma json_placeless (t : Tree) : t.placeless.json.without placeKeys = t.json.without placeKeys := by
  change (t.placeless.node.json _ t.placeless.parts.members).without placeKeys =
    (t.node.json _ t.parts.members).without placeKeys
  rw [Node.json_without, Node.json_without, ← Forest.withoutMembers_of_bare t.parts.bare_placeless]
  rfl

theorem placeless_tokens_eq (hg : ∀ r ∈ g.rules, ∀ a ∈ r.alternatives, a.Tells)
    (ht : Forest.Fits g [.rule name] t.forest) (hu : Forest.Fits g [.rule name] u.forest) (hts : t.parts.Spelled)
    (hus : u.parts.Spelled) (h : t.json.without placeKeys = u.json.without placeKeys) :
    t.parts.tokens.map Token.placeless = u.parts.tokens.map Token.placeless := by
  -- A match is the only capture of another one.
  have hbare : (Forest.tree (some "match") t.node t.parts .nil).bare =
      (Forest.tree (some "match") u.node u.parts .nil).bare := by
    rw [Forest.bare_tree, Forest.bare_tree]
    exact congrArg (insertMissing "match" · []) h
  have htokens := (ht.captured "match").placeless_eq hg (Alternative.tells_single name) (hu.captured "match")
    (by simpa [Forest.Spelled, Forest.tokens] using hts) (by simpa [Forest.Spelled, Forest.tokens] using hus) hbare
  simpa [Forest.tokens] using htokens

end Tree

end GlowSyntax
