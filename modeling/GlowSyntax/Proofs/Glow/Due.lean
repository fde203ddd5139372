import GlowSyntax.Proofs.Glow.Recognition
import GlowSyntax.Proofs.Match.Preceded
import Mathlib.Data.List.Chain

namespace GlowSyntax

inductive Due
  | declaration
  | name
  | assign
  | operand
  | operator
  | char
  deriving DecidableEq

def Due.after : Due → Kind → Option Due
  | declaration, .kwVar | declaration, .kwConst => some name
  | name, .identifier => some assign
  | assign, .assign => some operand
  | operand, .identifier | operand, .integer => some operator
  | operand, .parenOpen => some operand
  | operand, .quote => some char
  | operator, .times | operator, .slash | operator, .plus | operator, .minus => some operand
  | operator, .parenClose => some operator
  | operator, .semicolon => some declaration
  | char, .stringChar | char, .escapedQuote => some char
  | char, .quote => some operator
  | _, _ => none

def Due.Leads (d : Due) (w : List Kind) (e : Due) : Prop := w.foldlM Due.after d = some e

variable {d e e' : Due} {k l : Kind} {u v w : List Kind}

namespace Due.Leads

lemma single (h : d.after k = some e) : d.Leads [k] e := by simpa [Leads] using h

lemma append_iff : d.Leads (u ++ v) e ↔ ∃ e', d.Leads u e' ∧ e'.Leads v e := by
  simp [Leads, List.foldlM_append, Option.bind_eq_some_iff]

lemma append (h : d.Leads u e') (h' : e'.Leads v e) : d.Leads (u ++ v) e := append_iff.mpr ⟨e', h, h'⟩

lemma unique (h : d.Leads w e) (h' : d.Leads w e') : e = e' := Option.some.inj (h.symm.trans h')

end Due.Leads

def Phrase.opening : Phrase → Due
  | chars => .char
  | factor | expr => .operand
  | operations => .operator
  | declaration | program => .declaration

def Phrase.closing : Phrase → Due
  | chars => .char
  | factor | expr | operations => .operator
  | declaration | program => .declaration

lemma Sentence.leads {p : Phrase} (h : Sentence p w) : p.opening.Leads w p.closing := by
  induction h with
  | noChars => rfl
  | @moreChars k w hk _ ih =>
    have hchar : Due.char.after k = some .char := by rcases hk with rfl | rfl <;> rfl
    exact (Due.Leads.single hchar).append ih
  | name => rfl
  | integer => rfl
  | string _ ih =>
    have hopen : Due.operand.Leads [.quote] .char := rfl
    have hclose : Due.char.Leads [.quote] .operator := rfl
    exact (hopen.append ih).append hclose
  | paren _ ih =>
    have hopen : Due.operand.Leads [.parenOpen] .operand := rfl
    have hclose : Due.operator.Leads [.parenClose] .operator := rfl
    exact (hopen.append ih).append hclose
  | noOperations => rfl
  | @moreOperations k u v hk _ _ ihu ihv =>
    have hoperator : Due.operator.after k = some .operand := by rcases hk with rfl | rfl | rfl | rfl <;> rfl
    exact ((Due.Leads.single hoperator).append ihu).append ihv
  | expr _ _ ihu ihv => exact ihu.append ihv
  | @declaration k w hk _ ih =>
    have hbinder : Due.declaration.Leads [k, .identifier, .assign] .operand := by rcases hk with rfl | rfl <;> rfl
    have hsemicolon : Due.operator.Leads [.semicolon] .declaration := rfl
    exact (hbinder.append ih).append hsemicolon
  | lastDeclaration _ ih => exact ih
  | moreDeclarations _ _ ihu ihv => exact ihu.append ihv

def Item.precedes (x y : Item) : Bool :=
  match x.symbol, y.symbol with
  | .token l, .token k => k == .assign || k == .identifier && (l == .kwVar || l == .kwConst)
  | .rule name, .token k => k == .semicolon || k == .parenClose || name == "chars"
  | _, .rule _ => true

lemma glow_precedes : ∀ r ∈ Grammar.glow.rules, ∀ a ∈ r.alternatives, a.IsChain (Item.precedes · · = true) := by
  rw [Grammar.glow, Grammar.rules_ofRules (by decide)]
  decide

section AtEnd

variable {tokens : Nat → Option Token} {i m n : Nat}

lemma reads_chars_end {items : List Item} {out : Option (Reading × Nat)} (h : Reads .glow tokens items i out)
    {label : Option String} {parts : Reading} (hlast : items.getLast? = some ⟨.rule "chars", label⟩)
    (hout : out = some (parts, n)) : kindAt tokens n ≠ some .endOfFile := by
  induction h generalizing label parts with
  | nil => cases hlast
  | @token k l items i t out _ _ hr ih =>
    obtain ⟨⟨rest, stop⟩, rfl, hq⟩ := Option.map_eq_some_iff.mp hout
    obtain ⟨-, rfl⟩ := Prod.mk.inj hq
    cases items with
    | nil => cases hlast
    | cons x items => exact ih hlast rfl
  | other => cases hout
  | ended => cases hout
  | refused => cases hout
  | @chosen name l items i r t before a after ps j out hf ht he has _ hread hr _ iha ih =>
    obtain ⟨⟨rest, stop⟩, rfl, hq⟩ := Option.map_eq_some_iff.mp hout
    obtain ⟨-, rfl⟩ := Prod.mk.inj hq
    cases items with
    | cons x items => exact ih hlast rfl
    | nil =>
      cases hr.nil_inv
      obtain ⟨rfl, rfl⟩ : name = "chars" ∧ l = label := by simpa using hlast
      have ha : a ∈ r.alternatives := has ▸ by simp
      obtain rfl := Option.some.inj (hf.symm.trans (show Grammar.glow.find? "chars" = some _ from rfl))
      simp only [List.mem_cons, List.not_mem_nil, or_false] at ha
      rcases ha with rfl | rfl | rfl
      · exact iha rfl rfl
      · exact iha rfl rfl
      · cases hread.nil_inv
        rw [kindAt, ht]
        simpa [Token.isEnd] using he

lemma takes_token_inv {label : Option String} (h : Takes .glow tokens [⟨.token l, label⟩] m n) :
    n = m + 1 ∧ kindAt tokens m = some l := by
  obtain ⟨parts, h⟩ := h
  obtain ⟨t, o, ht, hk, hr, ho⟩ | ⟨-, ho⟩ := h.token_inv
  · rw [hr.nil_inv] at ho
    exact ⟨(Prod.mk.inj (Option.some.inj ho)).2, kindAt_eq_some.mpr ⟨t, ht, hk⟩⟩
  · cases ho

lemma kindsAt_last (h : KindsAt tokens i w) (hw : w.length = m + 1) (hl : kindAt tokens (i + m) = some l) :
    ∃ u, w = u ++ [l] := by
  obtain rfl | ⟨u, k, rfl⟩ := w.eq_nil_or_concat'
  · cases hw
  · obtain ⟨-, hk, -⟩ := kindsAt_append.mp h
    obtain rfl : u.length = m := by simpa using hw
    exact ⟨u, by rw [Option.some.inj (hk.symm.trans hl)]⟩

lemma Due.after_binder (hl : l.IsBinder) (h : d.after l = some e) : e = .name := by
  rcases hl with rfl | rfl <;> cases d <;> cases h <;> rfl

lemma Due.not_quote (hk : k = .assign ∨ k = .semicolon ∨ k = .parenClose) (h : (d.after k).isSome) :
    ¬ (d.after .quote).isSome := by
  revert h
  rcases hk with rfl | rfl | rfl <;> cases d <;> decide

lemma Due.leads_of_program (h : Sentence .program (w ++ k :: v)) :
    ∃ d, Due.declaration.Leads w d ∧ (d.after k).isSome := by
  obtain ⟨d, hd, hrest⟩ := Due.Leads.append_iff.mp h.leads
  obtain ⟨e, he, -⟩ := Option.bind_eq_some_iff.mp hrest
  exact ⟨d, hd, Option.isSome_iff_exists.mpr ⟨e, he⟩⟩

lemma not_due_at_end {f : Failure} (hp : f.Preceded .glow tokens) (hend : kindAt tokens f.depth = some .endOfFile)
    (hw : KindsAt tokens 0 w) (hlen : w.length = f.depth) (hf : Sentence .program (w ++ f.expected :: u)) :
    ¬ Sentence .program (w ++ .quote :: v) := by
  intro hquote
  obtain ⟨d, hd, hexpected⟩ := Due.leads_of_program hf
  obtain ⟨d', hd', hquote⟩ := Due.leads_of_program hquote
  obtain rfl := hd.unique hd'
  obtain ⟨r, hr, a, ha, before, ⟨symbol, l⟩, label, after, rfl, m, hx⟩ := hp
  have hprecedes := (List.isChain_append_cons_cons.mp (glow_precedes r hr _ ha)).2.1
  cases symbol with
  | token k =>
    obtain ⟨hm, hk⟩ := takes_token_inv hx
    simp only [Item.precedes, Bool.or_eq_true, Bool.and_eq_true, beq_iff_eq] at hprecedes
    rcases hprecedes with hassign | ⟨-, hbinder⟩
    · exact Due.not_quote (Or.inl hassign) hexpected hquote
    · -- Behind the keyword a name is due.
      obtain ⟨w, rfl⟩ := kindsAt_last hw (hlen.trans hm) (by rwa [Nat.zero_add])
      obtain ⟨e, -, hlast⟩ := Due.Leads.append_iff.mp hd
      obtain rfl := Due.after_binder hbinder (by simpa [Due.Leads] using hlast)
      cases hquote
  | rule name =>
    simp only [Item.precedes, Bool.or_eq_true, beq_iff_eq] at hprecedes
    rcases hprecedes with hkind | rfl
    · exact Due.not_quote (Or.inr hkind) hexpected hquote
    · obtain ⟨parts, hx⟩ := hx
      exact reads_chars_end hx rfl rfl hend

end AtEnd

end GlowSyntax
