import GlowSyntax.Diagnostic.Report
import GlowSyntax.Proofs.Diagnostic.Lines

namespace GlowSyntax

lemma append_cons_unique {α : Type} [DecidableEq α] {as bs xs ys : List α} {a : α} (ha : a ∉ as) (hb : a ∉ bs)
    (h : as ++ a :: xs = bs ++ a :: ys) : as = bs ∧ xs = ys := by
  have htake : ∀ {cs zs : List α}, a ∉ cs → (cs ++ a :: zs).takeWhile (· ≠ a) = cs := by
    intro cs zs hcs
    rw [List.takeWhile_append_of_pos]
    · simp
    · intro x hx
      simpa using ne_of_mem_of_not_mem hx hcs
  have heq : as = bs := by rw [← htake ha, h, htake hb]
  subst heq
  exact ⟨rfl, (List.cons.inj (List.append_cancel_left h)).2⟩

lemma digits_inj {m n : Nat} (h : Nat.toDigits 10 m = Nat.toDigits 10 n) : m = n := by
  have hvalue := congrArg (fun ds => Nat.ofDigitChars 10 ds 0) h
  simpa using hvalue

lemma not_mem_digits {c : Char} (hc : c.isDigit = false) (n : Nat) : c ∉ Nat.toDigits 10 n := by
  intro h
  rw [Nat.isDigit_of_mem_toDigits (by decide) (by decide) h] at hc
  cases hc

namespace Drawing

lemma toList_repeated (c : Char) (n : Nat) : (repeated c n).toList = List.replicate n c := by
  rw [repeated, String.pushn_eq_repeat_push]
  induction n with
  | zero => rfl
  | succ n ih => rw [Nat.repeat, String.toList_push, ih, List.replicate_succ']

def placeText (line column : Nat) : String := toString line ++ ":" ++ toString column

def locationHeader (indent : Nat) (file place : String) : String :=
  repeated ' ' indent ++ "╭─[" ++ file ++ ":" ++ place ++ "]\n"

def Locates (report : String) (d : Diagnostic) (file place : String) : Prop :=
  ∃ indent rest, report = headline d ++ (locationHeader indent file place ++ rest)

lemma position_text (p : Position) : p.text = placeText p.line.toNat p.column.toNat := rfl

lemma toList_locationHeader (indent line column : Nat) (file : String) :
    (locationHeader indent file (placeText line column)).toList = List.replicate indent ' ' ++ '╭' :: '─' :: '[' ::
      (file.toList ++ ':' :: (Nat.toDigits 10 line ++ ':' :: (Nat.toDigits 10 column ++ [']', '\n']))) := by
  simp [locationHeader, placeText, toList_repeated]

lemma locationHeader_inj {indent indent' line line' column column' : Nat} {file rest rest' : String}
    (h : locationHeader indent file (placeText line column) ++ rest =
      locationHeader indent' file (placeText line' column') ++ rest') : line = line' ∧ column = column' := by
  have hlist := congrArg String.toList h
  simp only [String.toList_append, toList_locationHeader, List.append_assoc, List.cons_append,
    List.nil_append] at hlist
  obtain ⟨-, hcorner⟩ := append_cons_unique (by simp) (by simp) hlist
  simp only [List.cons.injEq, true_and] at hcorner
  have hplace := (List.cons.inj (List.append_cancel_left hcorner)).2
  obtain ⟨hline, hrest⟩ := append_cons_unique (not_mem_digits rfl _) (not_mem_digits rfl _) hplace
  obtain ⟨hcolumn, -⟩ := append_cons_unique (not_mem_digits rfl _) (not_mem_digits rfl _) hrest
  exact ⟨digits_inj hline, digits_inj hcolumn⟩

lemma Locates.unique {report file : String} {d : Diagnostic} {p q : Position} (h : Locates report d file p.text)
    (h' : Locates report d file q.text) : p = q := by
  obtain ⟨indent, rest, rfl⟩ := h
  obtain ⟨indent', rest', h'⟩ := h'
  rw [position_text, position_text] at h'
  obtain ⟨hline, hcolumn⟩ := locationHeader_inj ((String.append_right_inj _).mp h')
  exact congrArg₂ Position.mk (UInt32.toNat_inj.mp hline) (UInt32.toNat_inj.mp hcolumn)

lemma locates_iff {indent line column : Nat} {file rest : String} {d : Diagnostic} {pos : Position} :
    Locates (headline d ++ (locationHeader indent file (placeText line column) ++ rest)) d file pos.text ↔
      line = pos.line.toNat ∧ column = pos.column.toNat := by
  rw [position_text]
  constructor
  · rintro ⟨indent', rest', h⟩
    exact locationHeader_inj ((String.append_right_inj _).mp h)
  · rintro ⟨rfl, rfl⟩
    exact ⟨indent, rest, rfl⟩

lemma not_locates_headline (d : Diagnostic) (file place : String) : ¬ Locates (headline d) d file place := by
  rintro ⟨indent, rest, h⟩
  have hlength := congrArg String.length h
  simp [locationHeader] at hlength

lemma exists_body_eq {text : List Char} {m : Line} {d : Diagnostic} (hm : lineAt? text d.span.start.toNat = some m)
    (file : String) (label : Label) (l : Line) :
    ∃ indent rest, body text file d label l =
      locationHeader indent file (placeText m.number (d.span.start.toNat - m.start + 1)) ++ rest := by
  simp only [body, hm, locationHeader, placeText, String.append_assoc]
  exact ⟨_, _, rfl⟩

end Drawing

end GlowSyntax
