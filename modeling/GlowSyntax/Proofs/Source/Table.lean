import GlowSyntax.Proofs.Source.Lines

/-!
The table of line starts holds the offsets whose column is one, so that searching in it and cutting the text at its
entries gives the positions and lines of the text.
-/

namespace GlowSyntax

lemma Text.utf8ByteSize_ofList (cs : List Char) : (String.ofList cs).utf8ByteSize = Text.size cs := by
  induction cs with
  | nil => rfl
  | cons c cs ih =>
    rw [String.ofList_cons, String.utf8ByteSize_append, String.utf8ByteSize_singleton, ih, Text.size_cons]

section BreakEnds

variable {cs xs ys lead : List Char} {n m : Nat}

lemma breakEnds_append (n : Nat) (xs ys : List Char) :
    breakEnds n (xs ++ ys) = breakEnds n xs ++ breakEnds (n + Text.size xs) ys := by
  induction xs generalizing n with
  | nil => rfl
  | cons c cs ih =>
    rw [List.cons_append, breakEnds, breakEnds, ih, Text.size_cons, ← Nat.add_assoc]
    split <;> rfl

lemma breakEnds_of_not_mem (h : '\n' ∉ cs) : breakEnds n cs = [] := by
  induction cs generalizing n with
  | nil => rfl
  | cons c cs ih =>
    obtain ⟨hc, hcs⟩ := not_or.mp (mt List.mem_cons.mpr h)
    rw [breakEnds, if_neg (Ne.symm hc), ih hcs]

lemma mem_breakEnds (h : m ∈ breakEnds n cs) : n < m ∧ m ≤ n + Text.size cs := by
  induction cs generalizing n with
  | nil => cases h
  | cons c cs ih =>
    have hpos := c.utf8Size_pos
    rw [breakEnds] at h
    rw [Text.size_cons]
    split at h
    · rcases List.mem_cons.mp h with rfl | h
      · omega
      · have hm := ih h
        omega
    · have hm := ih h
      omega

lemma length_breakEnds (n : Nat) (cs : List Char) : (breakEnds n cs).length = cs.count '\n' := by
  induction cs generalizing n with
  | nil => rfl
  | cons c cs ih =>
    rw [breakEnds]
    split
    · next hc => rw [List.length_cons, ih, hc, List.count_cons_self]
    · next hc => rw [ih, List.count_cons_of_ne hc]

lemma exists_breakEnds_concat (h : lastLine lead = []) :
    ∃ earlier, 0 :: breakEnds 0 lead = earlier ++ [Text.size lead] ∧ earlier.length = lead.count '\n' ∧
      ∀ m ∈ earlier, m < Text.size lead := by
  induction lead using List.reverseRecOn with
  | nil => exact ⟨[], rfl, rfl, by simp⟩
  | append_singleton cs c =>
    obtain rfl : c = '\n' := by
      by_contra hc
      simp [lastLine_concat hc] at h
    refine ⟨0 :: breakEnds 0 cs, ?_, ?_, fun m hm => ?_⟩
    · simp [breakEnds_append, breakEnds]
    · simp [length_breakEnds]
    · have hone : Text.size ['\n'] = 1 := rfl
      rw [Text.size_append, hone]
      rcases List.mem_cons.mp hm with rfl | hm
      · omega
      · have hle := (mem_breakEnds hm).2
        omega

end BreakEnds

section Search

variable {earlier later : List Nat} {n m : Nat}

lemma binarySearch_mem (h : ∀ i ∈ earlier, i < m) : binarySearch (earlier ++ m :: later) m = .ok earlier.length := by
  have hfound : (earlier ++ m :: later).idxOf? m = some earlier.length := by
    rw [List.idxOf?_eq_some_iff]
    refine ⟨by simp, by simp, fun j hj => ?_⟩
    rw [List.getElem_append_left hj]
    exact (h _ (List.getElem_mem hj)).ne
  rw [binarySearch, hfound]

lemma binarySearch_not_mem (h : ∀ i ∈ earlier, i < n) (hlater : ∀ i ∈ later, n < i) :
    binarySearch (earlier ++ later) n = .error earlier.length := by
  have hmissing : (earlier ++ later).idxOf? n = none := by
    rw [List.idxOf?_eq_none_iff, List.mem_append, not_or]
    exact ⟨fun hn => (h n hn).false, fun hn => (hlater n hn).false⟩
  have hearlier : earlier.countP (· < n) = earlier.length := List.countP_eq_length.mpr (by simpa using h)
  have hnone : later.countP (· < n) = 0 := List.countP_eq_zero.mpr (by simpa using fun i hi => (hlater i hi).le)
  rw [binarySearch, hmissing, List.countP_append, hearlier, hnone, Nat.add_zero]

end Search

namespace SourceFile

variable {f : SourceFile} {lead l before rest after : List Char} {n o : Nat}

lemma length_lineStarts (f : SourceFile) : f.lineStarts.length = f.lineCount := by
  simp [lineStarts, lineCount, lines, length_breakEnds, length_linesOf]

lemma exists_lineStarts (h : f.text = lead ++ rest) (hlead : lastLine lead = []) :
    ∃ earlier, f.lineStarts = earlier ++ Text.size lead :: breakEnds (Text.size lead) rest ∧
      earlier.length = lead.count '\n' ∧ ∀ m ∈ earlier, m < Text.size lead := by
  obtain ⟨earlier, hconcat, hlength, hearlier⟩ := exists_breakEnds_concat hlead
  refine ⟨earlier, ?_, hlength, hearlier⟩
  rw [lineStarts, h, breakEnds_append, ← List.cons_append, hconcat, Nat.zero_add, List.append_assoc]
  rfl

lemma getElem?_lineStarts (h : f.text = lead ++ rest) (hlead : lastLine lead = []) :
    f.lineStarts[lead.count '\n']? = some (Text.size lead) := by
  obtain ⟨earlier, hstarts, hlength, -⟩ := exists_lineStarts h hlead
  simp [hstarts, ← hlength]

lemma slice?_eq (h : f.text = lead ++ (l ++ after)) :
    f.slice? (Text.size lead) (Text.size lead + Text.size l) = some l := by
  have hrest : Text.dropBytes f.text (Text.size lead) = some (l ++ after) :=
    Text.dropBytes_eq_some_iff.mpr ⟨lead, h, rfl⟩
  have hafter : Text.dropBytes f.text (Text.size lead + Text.size l) = some after :=
    Text.dropBytes_eq_some_iff.mpr ⟨lead ++ l, by rw [h, List.append_assoc], Text.size_append lead l⟩
  simp [slice?, hrest, hafter]

lemma lineIndex_eq (h : f.text = lead ++ (l ++ after)) (hlead : lastLine lead = []) (hl : '\n' ∉ l) :
    f.lineIndex (Text.size lead + Text.size l) = lead.count '\n' := by
  obtain ⟨earlier, hstarts, hlength, hearlier⟩ := exists_lineStarts h hlead
  rw [breakEnds_append, breakEnds_of_not_mem hl, List.nil_append] at hstarts
  rw [lineIndex, hstarts, ← hlength]
  -- The offset is found if a line begins there, and otherwise its place is in front of the next line.
  cases l with
  | nil => rw [Text.size_nil, Nat.add_zero, binarySearch_mem hearlier]
  | cons c cs =>
    have hpos := c.utf8Size_pos
    have hlt : Text.size lead < Text.size lead + Text.size (c :: cs) := by
      rw [Text.size_cons]
      omega
    have hbelow : ∀ m ∈ earlier ++ [Text.size lead], m < Text.size lead + Text.size (c :: cs) := by
      intro m hm
      rcases List.mem_append.mp hm with hm | hm
      · exact (hearlier m hm).trans hlt
      · rwa [List.mem_singleton.mp hm]
    rw [List.append_cons, binarySearch_not_mem hbelow fun m hm => (mem_breakEnds hm).1]
    simp

theorem tabulatedPosition?_eq (f : SourceFile) (o : Nat) : f.tabulatedPosition? o = f.positionAt o := by
  rw [tabulatedPosition?, ← isSome_walk f.text o .start]
  change (if (f.positionAt o).isSome then _ else _) = _
  split
  · next h =>
    obtain ⟨p, hp⟩ := Option.isSome_iff_exists.mp h
    obtain ⟨before, after, htext, rfl, rfl⟩ := positionAt_eq_some_iff.mp hp
    obtain ⟨lead, hbefore, hlead⟩ := exists_lastLine before
    have hlast := newline_not_mem_lastLine before
    have hsum : Text.size lead + Text.size (lastLine before) = Text.size before := by
      rw [← Text.size_append, ← hbefore]
    have hcount : before.count '\n' = lead.count '\n' := by
      rw [hbefore, List.count_append, List.count_eq_zero.mpr hlast, Nat.add_zero]
    rw [hbefore, List.append_assoc] at htext
    have hindex := lineIndex_eq htext hlead hlast
    have hslice := slice?_eq htext
    have hline := Position.foldl_after_line before .start
    have hcolumn := Position.foldl_after_column before
    rw [hsum] at hindex hslice
    rw [hcount, UInt32.add_comm] at hline
    rw [← toUInt32_succ] at hcolumn
    rw [hindex, getElem?_lineStarts htext hlead, hp]
    simp only [Option.bind_eq_bind, Option.bind_some, hslice]
    rw [← hcolumn]
    exact congrArg (fun line => some (⟨line, _⟩ : Position)) hline.symm
  · next h => exact (Option.not_isSome_iff_eq_none.mp h).symm

theorem tabulatedLine?_eq (f : SourceFile) (n : Nat) : f.tabulatedLine? n = f.line? n := by
  cases n with
  | zero => rfl
  | succ n =>
    cases hl : (linesOf f.text)[n]? with
    | none =>
      have hnone : f.lineStarts[n]? = none := by
        rw [List.getElem?_eq_none_iff, length_lineStarts, lineCount, lines, List.length_map]
        exact List.getElem?_eq_none_iff.mp hl
      simp [tabulatedLine?, line?, lines, hl, hnone]
    | some l =>
      obtain ⟨lead, rest, htext, rfl, hlead, hmem, hrest⟩ := exists_of_linesOf hl
      obtain ⟨earlier, hstarts, hlength, -⟩ := exists_lineStarts htext hlead
      have hnext : f.lineStarts[lead.count '\n' + 1]? = (breakEnds (Text.size lead + Text.size l) rest)[0]? := by
        rw [hstarts, breakEnds_append, breakEnds_of_not_mem hmem, List.append_cons,
          List.getElem?_append_right (by simp [hlength])]
        simp [hlength]
      have hstop : f.lineStarts[lead.count '\n' + 1]?.elim (Text.size f.text) (· - 1) =
          Text.size lead + Text.size l := by
        rw [hnext]
        rcases hrest with rfl | ⟨more, rfl⟩
        · simp [breakEnds, htext]
        · exact Nat.add_sub_cancel _ 1
      simp [tabulatedLine?, line?, lines, hl, getElem?_lineStarts htext hlead, hstop, slice?_eq htext]

structure PositionsAgree (f : SourceFile) : Prop where
  tabulated : ∀ o, f.tabulatedPosition? o = f.positionAt o
  domain : ∀ o, (f.positionAt o).isSome ↔ (String.Pos.Raw.mk o).IsValid f.contents
  counts : ∀ before after, f.text = before ++ after → ∃ p, f.positionAt (Text.size before) = some p ∧
    p.line.toNat = 1 + before.count '\n' ∧ p.column.toNat = 1 + (lastLine before).length
  increasing : ∀ o o' p q, f.positionAt o = some p → f.positionAt o' = some q → o < o' → compare p q = .lt

structure LinesAgree (f : SourceFile) : Prop where
  tabulated : ∀ n, f.tabulatedLine? n = f.line? n
  count : f.lineStarts.length = f.lineCount
  domain : ∀ n, (f.line? n).isSome ↔ 1 ≤ n ∧ n ≤ f.lineCount
  unbroken : ∀ n l, f.line? n = some l → '\n' ∉ l.toList
  joined : "\n".intercalate f.lines = f.contents
  begins : ∀ n l, f.line? n = some l → ∃ o p rest, f.lineStarts[n - 1]? = some o ∧
    Text.dropBytes f.text o = some (l.toList ++ rest) ∧ (rest = [] ∨ ['\n'] <+: rest) ∧
    f.positionAt o = some p ∧ p.line.toNat = n ∧ p.column = 1 ∧ ∀ o', f.positionAt o' = some p → o' = o

lemma isSome_positionAt_iff (f : SourceFile) (o : Nat) :
    (f.positionAt o).isSome ↔ (String.Pos.Raw.mk o).IsValid f.contents := by
  rw [String.Pos.Raw.isValid_iff_exists_append]
  constructor
  · intro h
    obtain ⟨p, hp⟩ := Option.isSome_iff_exists.mp h
    obtain ⟨before, after, htext, rfl, -⟩ := positionAt_eq_some_iff.mp hp
    refine ⟨String.ofList before, String.ofList after, ?_, ?_⟩
    · rw [contents, htext, String.ofList_append]
    · rw [← Text.utf8ByteSize_ofList]
      rfl
  · rintro ⟨s, t, hcontents, ho⟩
    have htext : f.text = s.toList ++ t.toList := by
      rw [← String.toList_append, ← hcontents, contents, String.toList_ofList]
    have hsize : o = Text.size s.toList := by
      rw [← Text.utf8ByteSize_ofList, String.ofList_toList]
      exact congrArg String.Pos.Raw.byteIdx ho
    rw [hsize, positionAt_append htext]
    rfl

lemma exists_of_line? {l : String} (h : f.line? n = some l) :
    ∃ lead rest, f.text = lead ++ (l.toList ++ rest) ∧ lead.count '\n' + 1 = n ∧ lastLine lead = [] ∧
      '\n' ∉ l.toList ∧ (rest = [] ∨ ['\n'] <+: rest) := by
  cases n with
  | zero => cases h
  | succ n =>
    rw [line?, lines, List.getElem?_map, Option.map_eq_some_iff] at h
    obtain ⟨l, hl, rfl⟩ := h
    obtain ⟨lead, rest, htext, hcount, hlead, hmem, hrest⟩ := exists_of_linesOf hl
    rw [String.toList_ofList]
    exact ⟨lead, rest, htext, by rw [hcount], hlead, hmem, hrest⟩

lemma isSome_line?_iff (f : SourceFile) (n : Nat) : (f.line? n).isSome ↔ 1 ≤ n ∧ n ≤ f.lineCount := by
  cases n with
  | zero => simp [line?]
  | succ n =>
    have hlt : (f.line? (n + 1)).isSome ↔ n < f.lineCount := by simp [line?, lineCount]
    rw [hlt]
    omega

lemma intercalate_lines (f : SourceFile) : "\n".intercalate f.lines = f.contents := by
  have hlines : f.lines.map String.toList = linesOf f.text := by
    simp [lines, Function.comp_def]
  have htext : f.contents.toList = f.text := String.toList_ofList
  rw [← String.toList_inj, String.toList_intercalate, hlines, htext]
  exact intercalate_linesOf f.text

lemma positionsAgree (hsize : Text.size f.text < 2 ^ 32 - 1) : f.PositionsAgree where
  tabulated := tabulatedPosition?_eq f
  domain := isSome_positionAt_iff f
  counts _ _ h := ⟨_, positionAt_append h, toNat_line hsize h, toNat_column hsize h⟩
  increasing _ _ _ _ hp hq h := compare_positionAt hsize hp hq h

lemma linesAgree (hsize : Text.size f.text < 2 ^ 32 - 1) : f.LinesAgree where
  tabulated := tabulatedLine?_eq f
  count := length_lineStarts f
  domain := isSome_line?_iff f
  unbroken n l h := by
    obtain ⟨lead, rest, -, -, -, hmem, -⟩ := exists_of_line? h
    exact hmem
  joined := intercalate_lines f
  begins n l h := by
    obtain ⟨lead, rest, htext, rfl, hlead, -, hrest⟩ := exists_of_line? h
    have hp := positionAt_append htext
    have hdrop := Text.dropBytes_eq_some_iff.mpr ⟨lead, htext, rfl⟩
    refine ⟨Text.size lead, _, rest, getElem?_lineStarts htext hlead, hdrop, hrest, hp, ?_, ?_,
      fun o' ho' => positionAt_injective hsize ho' hp⟩
    · rw [toNat_line hsize htext, Nat.add_comm]
    · rw [Position.foldl_after_column, hlead]
      rfl

theorem positions_and_lines_agree (f : SourceFile) (hsize : Text.size f.text < 2 ^ 32 - 1) :
    f.PositionsAgree ∧ f.LinesAgree :=
  ⟨positionsAgree hsize, linesAgree hsize⟩

def accentedFile : SourceFile := .ofText "t" "ab\r\n\nçd\n"

theorem positions_and_lines_agree_accented :
    Text.size accentedFile.text < 2 ^ 32 - 1 ∧ accentedFile.PositionsAgree ∧ accentedFile.LinesAgree ∧
    accentedFile.lineStarts = [0, 3, 4, 8] ∧ accentedFile.positionAt 5 = none ∧
    accentedFile.positionAt 6 = some ⟨3, 2⟩ ∧ accentedFile.line? 3 = some "çd" := by
  have hsize : Text.size accentedFile.text < 2 ^ 32 - 1 := by decide +kernel
  obtain ⟨hpositions, hlines⟩ := positions_and_lines_agree accentedFile hsize
  exact ⟨hsize, hpositions, hlines, by decide +kernel, by decide +kernel, by decide +kernel, by decide +kernel⟩

end SourceFile

end GlowSyntax
