import Mathlib.Data.List.Basic
import IgnoreRules.Proofs.Escaping
import IgnoreRules.Report

/-!
# What a cell shows

A cell is to show a text as it is, and to that end the text is escaped. Four things get in the
way. Escaping doubles a single backslash at the end, and leaves a backslash before a bracket
that starts no tag, where it is taken away; and of text that is no markup, names between colons
may be taken for pictures, and some control characters are left out.

No two of them make up for each other, so a text is shown as it is exactly if none of them
happens. The pictures are the case with something in it, as nothing is known of how they look.
But they come without colons and take the place of two, and colons are lost in no other way: so
if as many are shown as there are, there was no picture. Then the control characters are told
by the characters alone, and the backslashes by the first one that is missing or added.
-/

namespace IgnoreRules

namespace Markup

section

variable [Display]

/-! ## Pictures -/

/-- Pictures cost colons. -/
theorem putPictures_eq_or_count_lt (text : List Char) :
    putPictures text = text ∨ (putPictures text).count ':' < text.count ':' := by
  fun_induction putPictures text with
  | case1 => exact .inl rfl
  | case2 text hnone ih =>
      rw [List.count_cons_self, List.count_cons_self]
      rcases ih with heq | hlt
      · exact .inl (congrArg _ heq)
      · exact .inr (Nat.succ_lt_succ hlt)
  | case3 text name rest hsome _ ih =>
      obtain ⟨rfl, hname⟩ := splitName?_eq hsome
      rw [List.count_append, List.count_cons_self, List.count_append, List.count_cons_self,
        List.count_eq_zero.2 hname]
      cases hpicture : Display.picture? name with
      | some picture =>
          have hnone := List.count_eq_zero.2 (Display.not_mem_picture hpicture)
          have hle : (putPictures rest).count ':' ≤ rest.count ':' := by
            rcases ih with heq | hlt
            · exact Nat.le_of_eq (congrArg _ heq)
            · exact Nat.le_of_lt hlt
          rw [Option.getD_some, hnone]
          exact .inr (by omega)
      | none =>
          rw [Option.getD_none]
          rcases ih with heq | hlt
          · exact .inl (by simp [heq])
          · right
            rw [List.cons_append, List.count_cons_self, List.count_append,
              List.count_eq_zero.2 hname, List.count_singleton_self]
            omega
  | case4 c text hc ih =>
      rw [List.count_cons_of_ne hc, List.count_cons_of_ne hc]
      exact ih.imp_left (congrArg _)

theorem Part.shown_eq (part : Part) :
    part.shown = (putPictures part.text).filter (!isControl ·) := by
  cases part with
  | plain text => rfl
  | tag inside =>
      rw [shown, text, putPictures]
      rfl

/-- There are no pictures in any of the parts, or colons are missing. -/
theorem forall_putPictures_or_count_lt (parts : List Part) :
    (∀ part ∈ parts, putPictures part.text = part.text) ∨
      (parts.flatMap (putPictures ·.text)).count ':' < (parts.flatMap Part.text).count ':' := by
  induction parts with
  | nil => exact .inl (List.forall_mem_nil _)
  | cons part parts ih =>
      rw [List.forall_mem_cons, List.flatMap_cons, List.flatMap_cons, List.count_append,
        List.count_append]
      rcases putPictures_eq_or_count_lt part.text with heq | hlt <;> rcases ih with hall | hmore
      · exact .inl ⟨heq, hall⟩
      · exact .inr (by rw [heq]; omega)
      · exact .inr (by rw [List.flatMap_congr hall]; omega)
      · exact .inr (by omega)

end

end Markup

namespace Report

/-! ## Backslashes -/

/-- Wherever a bracket stands behind a backslash, it starts a tag. -/
def EscapesTagsOnly (text : List Char) : Prop :=
  ∀ before rest, text = before ++ '\\' :: '[' :: rest → (Markup.splitTag? rest).isSome = true

theorem escapesTagsOnly_cons_iff {c : Char} {text : List Char} :
    EscapesTagsOnly (c :: text) ↔
      (∀ rest, c = '\\' → text = '[' :: rest → (Markup.splitTag? rest).isSome = true) ∧
        EscapesTagsOnly text := by
  constructor
  · intro h
    refine ⟨fun rest hc htext => h [] rest (by rw [hc, htext]; rfl), fun before rest htext => ?_⟩
    exact h (c :: before) rest (by rw [htext]; rfl)
  · rintro ⟨hhead, htail⟩ before rest htext
    cases before with
    | nil =>
        obtain ⟨hc, htext⟩ := List.cons.inj htext
        exact hhead rest hc htext
    | cons d before => exact htail before rest (List.cons.inj htext).2

theorem unescapeBrackets_eq_self_iff {text : List Char} :
    Markup.unescapeBrackets text = text ↔ EscapesTagsOnly text := by
  fun_induction Markup.unescapeBrackets text with
  | case1 rest htag ih =>
      simp only [List.cons.injEq, true_and, ih, escapesTagsOnly_cons_iff]
      simp [htag]
  | case2 rest hbare ih =>
      simp only [List.cons.injEq, escapesTagsOnly_cons_iff]
      simp [hbare]
  | case3 c rest hne ih =>
      simp only [List.cons.injEq, true_and, ih, escapesTagsOnly_cons_iff]
      refine ⟨fun h => ⟨fun tail hc hrest => absurd hrest (hne tail hc), h⟩, And.right⟩
  | case4 =>
      simp [EscapesTagsOnly]

/-- A backslash that is added at the end never makes up for one that was taken away. -/
theorem unescapeBrackets_concat_ne (text : List Char) :
    Markup.unescapeBrackets text ++ ['\\'] ≠ text := by
  fun_induction Markup.unescapeBrackets text with
  | case1 rest htag ih => exact fun heq => ih (List.cons.inj (List.cons.inj heq).2).2
  | case2 rest hbare ih => exact fun heq => absurd (List.cons.inj heq).1 (by decide)
  | case3 c rest hne ih => exact fun heq => ih (List.cons.inj heq).2
  | case4 => exact List.cons_ne_nil _ _

theorem afterEscape_eq_self_iff {text : List Char} :
    Markup.afterEscape text = text ↔ trailingBackslashes text ≠ 1 ∧ EscapesTagsOnly text := by
  rw [Markup.afterEscape]
  split
  · next hsingle => simp [hsingle, unescapeBrackets_concat_ne]
  · next hother => simp [hother, unescapeBrackets_eq_self_iff]

theorem count_afterEscape {c : Char} (hc : c ≠ '\\') (text : List Char) :
    (Markup.afterEscape text).count c = text.count c := by
  have hcount : (Markup.unescapeBrackets text).count c = text.count c := by
    fun_induction Markup.unescapeBrackets text with
    | case1 rest htag ih => simp only [List.count_cons, ih]
    | case2 rest hbare ih => simp [List.count_cons, ih, hc.symm]
    | case3 d rest hne ih => rw [List.count_cons, List.count_cons, ih]
    | case4 => rfl
  rw [Markup.afterEscape, List.count_append, hcount]
  split
  · rw [List.count_singleton, if_neg (by simpa using hc.symm), Nat.add_zero]
  · rfl

theorem mem_afterEscape {c : Char} {text : List Char} (h : c ∈ Markup.afterEscape text) :
    c = '\\' ∨ c ∈ text := by
  by_cases hc : c = '\\'
  · exact .inl hc
  · rw [← List.count_pos_iff, count_afterEscape hc, List.count_pos_iff] at h
    exact .inr h

/-- A backslash is no control character, so none is added. -/
theorem filter_afterEscape {text : List Char} (h : ∀ c ∈ text, Markup.isControl c = false) :
    (Markup.afterEscape text).filter (!Markup.isControl ·) = Markup.afterEscape text := by
  rw [List.filter_eq_self]
  intro c hmem
  rcases mem_afterEscape hmem with rfl | hmem
  · rfl
  · rw [h c hmem]
    rfl

/-! ## Cells -/

section

variable [Markup.Display] {text : List Char}

/-- Nothing in a text keeps it from being shown as it is: no backslash is added at its end or
taken away, no character is left out, and there is no name of a picture in any of its parts. -/
structure AsItIs (text : List Char) : Prop where
  trailing : trailingBackslashes text ≠ 1
  brackets : EscapesTagsOnly text
  controls : ∀ c ∈ text, Markup.isControl c = false
  pictures : ∀ part ∈ Markup.parts (Markup.escape text),
    Markup.putPictures part.text = part.text

/-- A cell is what is shown of the escaped text, which is never at fault. -/
theorem plainText_escape (text : List Char) :
    Markup.plainText (Markup.escape text) = .ok (shown text) := by
  rw [shown, Markup.plainText_eq_ok (Markup.isPlain_of_mem_parts_escape text)]
  rfl

theorem shown_eq_filter (text : List Char) :
    shown text = ((Markup.parts (Markup.escape text)).flatMap
      (Markup.putPictures ·.text)).filter (!Markup.isControl ·) := by
  have hshown := plainText_escape text
  rw [Markup.plainText_eq_ok (Markup.isPlain_of_mem_parts_escape text)] at hshown
  rw [← Except.ok.inj hshown, List.filter_flatMap]
  exact congrArg (List.flatMap · _) (funext Markup.Part.shown_eq)

theorem shown_eq_self_iff : shown text = text ↔ AsItIs text := by
  have htext := Markup.text_parts_escape text
  rw [shown_eq_filter]
  constructor
  · intro h
    have hcontrols : ∀ c ∈ text, Markup.isControl c = false := by
      intro c hmem
      rw [← h, List.mem_filter] at hmem
      simpa using hmem.2
    have hcount := congrArg (List.count ':') h
    rw [List.count_filter (by decide), ← count_afterEscape (by decide) text, ← htext] at hcount
    have hpictures := (Markup.forall_putPictures_or_count_lt _).resolve_right
      (Nat.not_lt.2 (Nat.le_of_eq hcount.symm))
    rw [List.flatMap_congr hpictures, htext, filter_afterEscape hcontrols] at h
    obtain ⟨htrailing, hbrackets⟩ := afterEscape_eq_self_iff.1 h
    exact ⟨htrailing, hbrackets, hcontrols, hpictures⟩
  · intro h
    rw [List.flatMap_congr h.pictures, htext, filter_afterEscape h.controls]
    exact afterEscape_eq_self_iff.2 ⟨h.trailing, h.brackets⟩

/-- The cell is what is shown of the escaped text, and this is the text itself exactly if nothing
keeps it from being shown as it is. -/
structure Shows (cell text : List Char) : Prop where
  rendered : Markup.plainText (Markup.escape text) = .ok cell
  asItIs : cell = text ↔ AsItIs text

theorem shows_shown (text : List Char) : Shows (shown text) text :=
  ⟨plainText_escape text, shown_eq_self_iff⟩

/-- A text without colons has no pictures, and what is left are the backslashes. -/
theorem shown_eq_afterEscape (hcolon : ':' ∉ text)
    (hcontrols : ∀ c ∈ text, Markup.isControl c = false) :
    shown text = Markup.afterEscape text := by
  rw [← List.count_eq_zero, ← count_afterEscape (by decide), ← Markup.text_parts_escape] at hcolon
  have hpictures := (Markup.forall_putPictures_or_count_lt _).resolve_right
    (hcolon ▸ Nat.not_lt_zero _)
  rw [shown_eq_filter, List.flatMap_congr hpictures, Markup.text_parts_escape,
    filter_afterEscape hcontrols]

end

end Report

end IgnoreRules
