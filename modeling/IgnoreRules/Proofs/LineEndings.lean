import IgnoreRules.Proofs.TextBytes
import IgnoreRules.Text.Lines

/-!
# Lines written with their endings

A file is read in three layers. The mark goes from its bytes, the bytes are decoded, and the
text is split into lines. Nothing has to be done about breaks of two characters before the
split, which takes them as it takes those of one (`split_unifyBreaks`). Writing undoes the
layers in turn, with a choice to be made for each line of how it ends, and with no ending
behind the last line if one likes, as long as something is written for it.

The layers meet in two places only. A carriage return counts together with a line feed
behind it, so an ending of both is one ending, and no line may hold either of them. And the
mark is a character of the text as well: the first one is taken for the mark wherever it
comes from, so lines that start with it are safe only behind a mark of the file.
-/

namespace IgnoreRules.Lines

/-- The line has no character that would end it. -/
def IsOne (line : List Char) : Prop :=
  ∀ c ∈ line, isLineEnd c = false

instance (line : List Char) : Decidable (IsOne line) :=
  List.decidableBAll (fun c => isLineEnd c = false) line

/-! ## What splitting does at a character -/

theorem split_cons {c : Char} (h : isLineEnd c = false) (rest : List Char) :
    split (c :: rest) = extendFirst c (split rest) := by
  rw [split.eq_def]
  split
  · next heq => cases heq
  · next heq =>
      obtain ⟨rfl, _⟩ := List.cons.inj heq
      cases h
  · next heq =>
      obtain ⟨rfl, rfl⟩ := List.cons.inj heq
      rw [h, if_neg Bool.false_ne_true]

/-- A carriage return waits for a line feed behind it, and any other end counts by itself. -/
theorem split_end {c : Char} {rest : List Char} (h : isLineEnd c = true)
    (hpair : ∀ later, c = '\r' → rest ≠ '\n' :: later) : split (c :: rest) = [] :: split rest := by
  rw [split]
  · rw [if_pos h]
  · exact hpair

theorem split_lineFeed (rest : List Char) : split ('\n' :: rest) = [] :: split rest :=
  split_end rfl (by rintro later ⟨⟩)

/-- Breaks that are unified first are split alike. -/
theorem split_unifyBreaks (text : List Char) : split (unifyBreaks text) = split text := by
  fun_induction unifyBreaks text with
  | case1 => rfl
  | case2 rest ih => rw [split_lineFeed, ih, split]
  | case3 c rest hpair ih =>
      cases hend : isLineEnd c with
      | false =>
          have hc : c ≠ '\r' := by
            rintro rfl
            cases hend
          rw [if_neg hc, split_cons hend, split_cons hend, ih]
      | true =>
          -- Only a carriage return changes here, and no line feed was behind it.
          rw [split_end hend hpair, ← ih]
          split
          · exact split_lineFeed _
          · next hc => exact split_end hend fun _ hreturn => absurd hreturn hc

theorem isOne_of_mem_extendFirst {c : Char} {lines : List (List Char)} {line : List Char}
    (hc : isLineEnd c = false) (hlines : ∀ line ∈ lines, IsOne line)
    (h : line ∈ extendFirst c lines) : IsOne line := by
  cases lines with
  | nil =>
      rw [extendFirst, List.mem_singleton] at h
      rw [h]
      exact List.forall_mem_singleton.2 hc
  | cons first others =>
      obtain ⟨hfirst, hothers⟩ := List.forall_mem_cons.1 hlines
      rcases List.mem_cons.1 h with rfl | hmem
      · exact List.forall_mem_cons.2 ⟨hc, hfirst⟩
      · exact hothers line hmem

/-- No line that splitting gives has an end in it. -/
theorem isOne_of_mem_split {text line : List Char} (h : line ∈ split text) : IsOne line := by
  fun_induction split text generalizing line with
  | case1 => cases h
  | case2 rest ih =>
      rcases List.mem_cons.1 h with rfl | hmem
      · exact nofun
      · exact ih hmem
  | case3 c rest hpair hend ih =>
      rcases List.mem_cons.1 h with rfl | hmem
      · exact nofun
      · exact ih hmem
  | case4 c rest hpair hend ih =>
      exact isOne_of_mem_extendFirst (Bool.not_eq_true _ ▸ hend) (fun _ => ih) h

/-! ## Lines and their endings -/

/-- How a line that is written ends. -/
inductive Ending where
  | lineFeed
  | returnAndLineFeed
  deriving DecidableEq, Repr

/-- The characters of the ending. -/
def Ending.text : Ending → List Char
  | .lineFeed => ['\n']
  | .returnAndLineFeed => ['\r', '\n']

theorem split_ending (ending : Ending) (rest : List Char) :
    split (ending.text ++ rest) = [] :: split rest := by
  cases ending with
  | lineFeed => exact split_lineFeed rest
  | returnAndLineFeed => exact split.eq_2 rest

/-- A line is read up to its ending. -/
theorem split_line {line : List Char} (h : IsOne line) (ending : Ending) (rest : List Char) :
    split (line ++ (ending.text ++ rest)) = line :: split rest := by
  induction line with
  | nil => exact split_ending ending rest
  | cons c line ih =>
      obtain ⟨hc, hline⟩ := List.forall_mem_cons.1 h
      rw [List.cons_append, split_cons hc, ih hline, extendFirst]

/-- A line without an ending is read to the end of the text. -/
theorem split_open {line : List Char} (h : IsOne line) :
    split line = if line = [] then [] else [line] := by
  induction line with
  | nil => rfl
  | cons c line ih =>
      obtain ⟨hc, hline⟩ := List.forall_mem_cons.1 h
      rw [split_cons hc, ih hline, if_neg (List.cons_ne_nil c line)]
      split
      · next hnil => rw [hnil, extendFirst]
      · rw [extendFirst]

/-- Lines as they are written into a file, each with its ending. -/
def writtenWith (lines : List (List Char × Ending)) : List Char :=
  lines.flatMap fun (line, ending) => line ++ ending.text

variable {lines : List (List Char × Ending)} {last : List Char}

theorem split_writtenWith (h : ∀ line ∈ lines.map Prod.fst, IsOne line) (rest : List Char) :
    split (writtenWith lines ++ rest) = lines.map Prod.fst ++ split rest := by
  induction lines with
  | nil => rfl
  | cons first lines ih =>
      obtain ⟨hfirst, hlines⟩ := List.forall_mem_cons.1 h
      rw [writtenWith, List.flatMap_cons, ← writtenWith, List.append_assoc, List.append_assoc,
        split_line hfirst, ih hlines, List.map_cons, List.cons_append]

theorem split_closed (h : ∀ line ∈ lines.map Prod.fst, IsOne line) :
    split (writtenWith lines) = lines.map Prod.fst := by
  have hsplit := split_writtenWith h []
  rwa [List.append_nil, split, List.append_nil] at hsplit

theorem split_closed_open (h : ∀ line ∈ lines.map Prod.fst ++ [last], IsOne line)
    (hlast : last ≠ []) : split (writtenWith lines ++ last) = lines.map Prod.fst ++ [last] := by
  obtain ⟨hlines, hone⟩ := List.forall_mem_append.1 h
  rw [split_writtenWith hlines, split_open (List.forall_mem_singleton.1 hone), if_neg hlast]

/-- The text starts as its first line does, if that starts with anything but an end. -/
theorem head?_writtenWith_open {c : Char} (hc : isLineEnd c = false)
    (h : ∀ line, (lines.map Prod.fst ++ [last]).head? = some line → line.head? ≠ some c) :
    (writtenWith lines ++ last).head? ≠ some c := by
  cases lines with
  | nil => exact h last rfl
  | cons first lines =>
      obtain ⟨line, ending⟩ := first
      cases line with
      | nil =>
          -- An empty line starts with its ending, and `c` is none.
          intro hhead
          cases ending
          all_goals
            cases hhead
            cases hc
      | cons d line => exact h (d :: line) rfl

theorem head?_writtenWith {c : Char} (hc : isLineEnd c = false)
    (h : ∀ line, (lines.map Prod.fst).head? = some line → line.head? ≠ some c) :
    (writtenWith lines).head? ≠ some c := by
  cases lines with
  | nil => exact nofun
  | cons first lines =>
      have hhead : (writtenWith (first :: lines) ++ []).head? ≠ some c :=
        head?_writtenWith_open hc h
      rwa [List.append_nil] at hhead

/-! ## The mark -/

theorem encode_mark : Utf8.encode ['\ufeff'] = mark := by
  decide

/-- Of the texts whose bytes and the mark begin alike, all start with the mark. -/
theorem head?_of_append_eq {c : Char} {text : List Char} {more after : List UInt8}
    (h : Utf8.encode (c :: text) ++ more = mark ++ after) : c = '\ufeff' := by
  rw [← encode_mark, Utf8.encode, Utf8.encode, List.flatMap_cons, List.flatMap_singleton,
    List.append_assoc] at h
  exact (Utf8.encodeChar_append_inj h).1

theorem dropMark_encode {text : List Char} (h : text.head? ≠ some '\ufeff') :
    dropMark (Utf8.encode text) = Utf8.encode text := by
  cases text with
  | nil => rfl
  | cons c text =>
      have hc : c ≠ '\ufeff' := fun heq => h (congrArg some heq)
      rw [dropMark, if_neg, if_neg]
      · intro hmark
        obtain ⟨after, hafter⟩ := List.isPrefixOf_iff_prefix.1 hmark
        exact hc (head?_of_append_eq ((List.append_nil _).trans hafter.symm))
      · intro hmark
        obtain ⟨more, hmore⟩ := List.isPrefixOf_iff_prefix.1 hmark
        exact hc (head?_of_append_eq (hmore.trans (List.append_nil _).symm))

/-- The mark goes, and what is behind it stays, even another mark. -/
theorem dropMark_mark (bytes : List UInt8) : dropMark (mark ++ bytes) = bytes := by
  cases bytes with
  | nil => rfl
  | cons b bytes =>
      rw [dropMark, if_neg, if_pos, List.drop_left]
      · exact List.isPrefixOf_iff_prefix.2 (List.prefix_append mark (b :: bytes))
      · intro hmark
        have hlength := (List.isPrefixOf_iff_prefix.1 hmark).length_le
        rw [List.length_append, List.length_cons] at hlength
        omega

theorem ofBytes_marked (text : List Char) :
    ofBytes (mark ++ Utf8.encode text) = .ok (split text) := by
  rw [ofBytes, dropMark_mark, Utf8.decode_encode]
  rfl

theorem ofBytes_unmarked {text : List Char} (h : text.head? ≠ some '\ufeff') :
    ofBytes (Utf8.encode text) = .ok (split text) := by
  rw [ofBytes, dropMark_encode h, Utf8.decode_encode]
  rfl

/-- The lines of a text file are those of its text, or of what is behind the mark. -/
theorem exists_ofBytes {bytes : List UInt8} {text : List Char}
    (h : Utf8.decode bytes = .ok text) : ∃ unmarked, ofBytes bytes = .ok (split unmarked) := by
  rw [Utf8.decode_eq_ok_iff.1 h]
  by_cases hmark : text.head? = some '\ufeff'
  · obtain ⟨unmarked, rfl⟩ := List.head?_eq_some_iff.1 hmark
    refine ⟨unmarked, ?_⟩
    rw [← ofBytes_marked, ← encode_mark, Utf8.encode, Utf8.encode, Utf8.encode,
      List.flatMap_cons, List.flatMap_singleton]
  · exact ⟨text, ofBytes_unmarked hmark⟩

/-- Lines are read back as they were written, with any endings, behind a mark or, if they do
not start with one, without it; the last line may do without an ending if it is not empty.
And whatever text is read gives lines that can be written so. -/
theorem read_undoes_write :
    (∀ lines : List (List Char × Ending), (∀ line ∈ lines.map Prod.fst, IsOne line) →
      ofBytes (mark ++ Utf8.encode (writtenWith lines)) = .ok (lines.map Prod.fst) ∧
      ((∀ line, (lines.map Prod.fst).head? = some line → line.head? ≠ some '\ufeff') →
        ofBytes (Utf8.encode (writtenWith lines)) = .ok (lines.map Prod.fst))) ∧
    (∀ (lines : List (List Char × Ending)) (last : List Char),
      (∀ line ∈ lines.map Prod.fst ++ [last], IsOne line) → last ≠ [] →
      ofBytes (mark ++ Utf8.encode (writtenWith lines ++ last)) =
        .ok (lines.map Prod.fst ++ [last]) ∧
      ((∀ line, (lines.map Prod.fst ++ [last]).head? = some line → line.head? ≠ some '\ufeff') →
        ofBytes (Utf8.encode (writtenWith lines ++ last)) =
          .ok (lines.map Prod.fst ++ [last]))) ∧
    ∀ bytes text, Utf8.decode bytes = .ok text →
      ∃ lines, ofBytes bytes = .ok lines ∧ (∀ line ∈ lines, IsOne line) ∧
        ∀ written : List (List Char × Ending), written.map Prod.fst = lines →
          ofBytes (mark ++ Utf8.encode (writtenWith written)) = .ok lines := by
  refine ⟨fun lines hlines => ⟨?_, fun hmark => ?_⟩,
    fun lines last hlines hlast => ⟨?_, fun hmark => ?_⟩, fun bytes text htext => ?_⟩
  · rw [ofBytes_marked, split_closed hlines]
  · rw [ofBytes_unmarked (head?_writtenWith rfl hmark), split_closed hlines]
  · rw [ofBytes_marked, split_closed_open hlines hlast]
  · rw [ofBytes_unmarked (head?_writtenWith_open rfl hmark), split_closed_open hlines hlast]
  · obtain ⟨unmarked, hlines⟩ := exists_ofBytes htext
    refine ⟨_, hlines, fun _ => isOne_of_mem_split, fun written hwritten => ?_⟩
    have hone : ∀ line ∈ written.map Prod.fst, IsOne line := by
      rw [hwritten]
      exact fun _ => isOne_of_mem_split
    rw [ofBytes_marked, split_closed hone, hwritten]

/-- A line that starts like the mark, in front of an empty one; a last line without an ending;
and a file of two marks, the second of which is a line. -/
theorem read_undoes_write_marks :
    ofBytes (mark ++ Utf8.encode "\ufeffa\r\n\n".toList) = .ok ["\ufeffa".toList, []] ∧
    ofBytes (Utf8.encode "a\r\n\nb".toList) = .ok ["a".toList, [], "b".toList] ∧
    ∃ lines, ofBytes (mark ++ mark) = .ok lines ∧ (∀ line ∈ lines, IsOne line) ∧
      lines = ["\ufeff".toList] := by
  obtain ⟨hclosed, hopen, hread⟩ := read_undoes_write
  have hmarks : Utf8.decode (mark ++ mark) = .ok "\ufeff\ufeff".toList := by
    rw [← encode_mark, Utf8.decode_eq_ok_iff]
    rfl
  obtain ⟨lines, hlines, hone, _⟩ := hread _ _ hmarks
  refine ⟨(hclosed [("\ufeffa".toList, .returnAndLineFeed), ([], .lineFeed)] (by decide)).1,
    (hopen [("a".toList, .returnAndLineFeed), ([], .lineFeed)] "b".toList (by decide)
      (by decide)).2 ?_, lines, hlines, hone, ?_⟩
  · rintro _ ⟨⟩
    decide
  · have hsecond : ofBytes (mark ++ mark) = .ok ["\ufeff".toList] := ofBytes_marked ['\ufeff']
    rw [hlines] at hsecond
    exact Except.ok.inj hsecond

end IgnoreRules.Lines
