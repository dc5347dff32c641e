import IgnoreRules.Regex.Basic

/-!
# Marks decide matching

`Regex.fullMatch` never tries a cut. It carries one mark for each place in the
text and moves the marks on, item by item; `Regex.Matches` speaks of cuts and
knows no marks. This file reads the marks back as cuts: `Marked text marks rest`
says that the place before the suffix `rest` is marked, and every operation on
marks turns out to take a piece off the front of such a suffix, a piece that the
step or item accounts for.

The one operation with anything in it is `spread`, which is stated for any
starting value of its flag: an open run is a run from the place where the text
begins, and that is what carries the induction. The length of the marks is the
only other fact in play. It never changes, and it matters only where two lists of
marks are joined place by place.
-/

namespace IgnoreRules.Regex

/-- The place before the suffix `rest` of the text is marked. -/
inductive Marked : List Char → List Bool → List Char → Prop where
  | here {text : List Char} {marks : List Bool} : Marked text (true :: marks) text
  | there {c : Char} {text rest : List Char} {mark : Bool} {marks : List Bool} :
      Marked text marks rest → Marked (c :: text) (mark :: marks) rest

/-- There is a mark for each place in the text. -/
def Covers (marks : List Bool) (text : List Char) : Prop :=
  marks.length = text.length + 1

theorem marked_cons_iff {c : Char} {text rest : List Char} {mark : Bool}
    {marks : List Bool} :
    Marked (c :: text) (mark :: marks) rest ↔
      (mark = true ∧ rest = c :: text) ∨ Marked text marks rest := by
  constructor
  · intro h
    cases h with
    | here => exact Or.inl ⟨rfl, rfl⟩
    | there h => exact Or.inr h
  · intro h
    rcases h with ⟨rfl, rfl⟩ | h
    · exact Marked.here
    · exact Marked.there h

theorem marked_nil_iff {rest : List Char} {mark : Bool} {marks : List Bool} :
    Marked [] (mark :: marks) rest ↔ mark = true ∧ rest = [] := by
  constructor
  · intro h
    cases h
    exact ⟨rfl, rfl⟩
  · intro h
    obtain ⟨rfl, rfl⟩ := h
    exact Marked.here

theorem marked_head_iff {text rest : List Char} {mark : Bool} {marks : List Bool} :
    Marked text (mark :: marks) rest ↔
      (mark = true ∧ rest = text) ∨ Marked text (false :: marks) rest := by
  cases text with
  | nil => simp [marked_nil_iff]
  | cons c text => simp [marked_cons_iff]

theorem covers_cons_iff {c : Char} {text : List Char} {marks : List Bool} :
    Covers marks (c :: text) ↔ ∃ mark rest, marks = mark :: rest ∧ Covers rest text := by
  constructor
  · intro h
    cases marks with
    | nil => cases h
    | cons mark rest => exact ⟨mark, rest, rfl, Nat.succ.inj h⟩
  · intro h
    obtain ⟨mark, rest, rfl, h⟩ := h
    exact congrArg Nat.succ h

theorem covers_nil_iff {marks : List Bool} : Covers marks [] ↔ ∃ mark, marks = [mark] := by
  simp [Covers, List.length_eq_one_iff]

theorem covers_startMarks (text : List Char) : Covers (startMarks text) text := by
  simp [Covers, startMarks]

theorem marked_map_false {text rest : List Char} {letters : List Char} :
    ¬ Marked text (letters.map fun _ => false) rest := by
  induction letters generalizing text with
  | nil => intro h; cases h
  | cons c letters ih =>
      intro h
      cases h with
      | there h => exact ih h

theorem marked_startMarks {text rest : List Char} :
    Marked text (startMarks text) rest ↔ rest = text := by
  rw [startMarks, marked_head_iff]
  constructor
  · intro h
    rcases h with ⟨-, h⟩ | h
    · exact h
    · cases h with
      | there h => exact absurd h marked_map_false
  · intro h
    exact Or.inl ⟨rfl, h⟩

/-! ## One step

A step that accounts for one character moves each mark over it; a step that
accounts for many lets each mark run on as far as the class goes. -/

theorem marked_one {cls : CharClass} {text rest : List Char} {marks : List Bool} :
    Marked text (stepMarks text marks (.one cls)) rest ↔
      ∃ c, cls.holds c = true ∧ Marked text marks (c :: rest) := by
  rw [stepMarks]
  induction text generalizing marks with
  | nil =>
      rw [marked_nil_iff]
      constructor
      · intro h
        obtain ⟨h, -⟩ := h
        cases h
      · intro h
        obtain ⟨c, -, h⟩ := h
        cases h
  | cons d text ih =>
      cases marks with
      | nil =>
          constructor
          · intro h
            cases h with
            | there h => cases h
          · intro h
            obtain ⟨c, -, h⟩ := h
            cases h
      | cons mark marks =>
          rw [List.zipWith_cons_cons, marked_cons_iff, marked_head_iff, ih]
          simp only [marked_cons_iff, List.cons.injEq, Bool.and_eq_true]
          constructor
          · intro h
            rcases h with ⟨h, -⟩ | ⟨⟨hm, hd⟩, rfl⟩ | ⟨c, hc, h⟩
            · cases h
            · exact ⟨d, hd, Or.inl ⟨hm, rfl, rfl⟩⟩
            · exact ⟨c, hc, Or.inr h⟩
          · intro h
            obtain ⟨c, hc, ⟨hm, rfl, rfl⟩ | h⟩ := h
            · exact Or.inr (Or.inl ⟨⟨hm, hc⟩, rfl⟩)
            · exact Or.inr (Or.inr ⟨c, hc, h⟩)

/-- A run from the start of a text stops at once, or it goes on behind the first
character. -/
theorem run_cons_iff {cls : CharClass} {c : Char} {text rest : List Char} :
    (∃ piece, (RegexStep.many cls).Takes piece ∧ piece ++ rest = c :: text) ↔
      rest = c :: text ∨ cls.holds c = true ∧
        ∃ piece, (RegexStep.many cls).Takes piece ∧ piece ++ rest = text := by
  constructor
  · intro h
    obtain ⟨piece, hp, heq⟩ := h
    cases piece with
    | nil => exact Or.inl heq
    | cons d piece =>
        rw [List.cons_append, List.cons.injEq] at heq
        obtain ⟨rfl, rfl⟩ := heq
        obtain ⟨hd, hp⟩ := List.forall_mem_cons.1 hp
        exact Or.inr ⟨hd, piece, hp, rfl⟩
  · intro h
    rcases h with rfl | ⟨hc, piece, hp, rfl⟩
    · exact ⟨[], List.forall_mem_nil _, rfl⟩
    · exact ⟨c :: piece, List.forall_mem_cons.2 ⟨hc, hp⟩, rfl⟩

theorem marked_spread {cls : CharClass} {isOpen : Bool} {text rest : List Char}
    {marks : List Bool} (hm : Covers marks text) :
    Marked text (spread cls isOpen text marks) rest ↔
      (∃ piece, (RegexStep.many cls).Takes piece ∧ Marked text marks (piece ++ rest)) ∨
        isOpen = true ∧ ∃ piece, (RegexStep.many cls).Takes piece ∧ piece ++ rest = text := by
  induction text generalizing isOpen marks with
  | nil =>
      obtain ⟨mark, rfl⟩ := covers_nil_iff.1 hm
      simp only [spread, List.map_cons, List.map_nil, marked_nil_iff, Bool.or_eq_true,
        List.append_eq_nil_iff]
      constructor
      · intro h
        obtain ⟨h | h, rfl⟩ := h
        · exact Or.inl ⟨[], List.forall_mem_nil _, h, rfl, rfl⟩
        · exact Or.inr ⟨h, [], List.forall_mem_nil _, rfl, rfl⟩
      · intro h
        rcases h with ⟨piece, -, h, -, hr⟩ | ⟨h, piece, -, -, hr⟩
        · exact ⟨Or.inl h, hr⟩
        · exact ⟨Or.inr h, hr⟩
  | cons c text ih =>
      obtain ⟨mark, marks, rfl, hms⟩ := covers_cons_iff.1 hm
      simp only [spread, marked_cons_iff, ih hms, run_cons_iff, Bool.or_eq_true,
        Bool.and_eq_true]
      constructor
      · intro h
        rcases h with ⟨h | h, rfl⟩ | ⟨piece, hp, h⟩ | ⟨⟨h | h, hc⟩, hrun⟩
        · exact Or.inl ⟨[], List.forall_mem_nil _, Or.inl ⟨h, rfl⟩⟩
        · exact Or.inr ⟨h, Or.inl rfl⟩
        · exact Or.inl ⟨piece, hp, Or.inr h⟩
        · obtain ⟨piece, hp, heq⟩ := run_cons_iff.2 (Or.inr ⟨hc, hrun⟩)
          exact Or.inl ⟨piece, hp, Or.inl ⟨h, heq⟩⟩
        · exact Or.inr ⟨h, Or.inr ⟨hc, hrun⟩⟩
      · intro h
        rcases h with ⟨piece, hp, ⟨h, heq⟩ | h⟩ | ⟨h, rfl | ⟨hc, hrun⟩⟩
        · rcases run_cons_iff.1 ⟨piece, hp, heq⟩ with rfl | ⟨hc, hrun⟩
          · exact Or.inl ⟨Or.inl h, rfl⟩
          · exact Or.inr (Or.inr ⟨⟨Or.inl h, hc⟩, hrun⟩)
        · exact Or.inr (Or.inl ⟨piece, hp, h⟩)
        · exact Or.inl ⟨Or.inr h, rfl⟩
        · exact Or.inr (Or.inr ⟨⟨Or.inr h, hc⟩, hrun⟩)

theorem covers_spread {cls : CharClass} {isOpen : Bool} {text : List Char}
    {marks : List Bool} (hm : Covers marks text) :
    Covers (spread cls isOpen text marks) text := by
  induction text generalizing isOpen marks with
  | nil =>
      obtain ⟨mark, rfl⟩ := covers_nil_iff.1 hm
      exact covers_nil_iff.2 ⟨_, rfl⟩
  | cons c text ih =>
      obtain ⟨mark, marks, rfl, hms⟩ := covers_cons_iff.1 hm
      exact covers_cons_iff.2 ⟨_, _, rfl, ih hms⟩

theorem covers_stepMarks {text : List Char} {marks : List Bool} (step : RegexStep)
    (hm : Covers marks text) : Covers (stepMarks text marks step) text := by
  cases step with
  | one cls =>
      rw [Covers] at hm ⊢
      rw [stepMarks, List.length_cons, List.length_zipWith, hm]
      omega
  | many cls => exact covers_spread hm

theorem marked_stepMarks {step : RegexStep} {text rest : List Char} {marks : List Bool}
    (hm : Covers marks text) :
    Marked text (stepMarks text marks step) rest ↔
      ∃ piece, step.Takes piece ∧ Marked text marks (piece ++ rest) := by
  cases step with
  | one cls =>
      rw [marked_one]
      constructor
      · intro h
        obtain ⟨c, hc, h⟩ := h
        exact ⟨[c], ⟨c, rfl, hc⟩, h⟩
      · intro h
        obtain ⟨piece, ⟨c, rfl, hc⟩, h⟩ := h
        exact ⟨c, hc, h⟩
  | many cls =>
      rw [stepMarks, marked_spread hm]
      simp

/-! ## Groups, items and whole expressions -/

/-- Moving the marks over a unit takes a piece that is the unit's own off the
suffixes, and keeps a mark for each place. -/
def Carries {α : Type} (text : List Char) (move : List Bool → α → List Bool)
    (takes : α → List Char → Prop) : Prop :=
  ∀ unit marks, Covers marks text → Covers (move marks unit) text ∧
    ∀ rest, Marked text (move marks unit) rest ↔
      ∃ piece, takes unit piece ∧ Marked text marks (piece ++ rest)

/-- What carries the marks over each unit carries them over all of them, one after
the other, by cutting off one piece each. -/
theorem Carries.foldl {α : Type} {text : List Char} {move : List Bool → α → List Bool}
    {takes : α → List Char → Prop} (hmove : Carries text move takes) :
    Carries text (List.foldl move) (Cut takes) := by
  intro units
  induction units with
  | nil =>
      intro marks hm
      refine ⟨hm, fun rest => ?_⟩
      simp [cut_nil_iff]
  | cons unit units ih =>
      intro marks hm
      obtain ⟨hm', hunit⟩ := hmove unit marks hm
      obtain ⟨hcov, hunits⟩ := ih _ hm'
      refine ⟨hcov, fun rest => ?_⟩
      rw [List.foldl_cons, hunits]
      constructor
      · intro h
        obtain ⟨after, ha, h⟩ := h
        obtain ⟨piece, hp, h⟩ := (hunit _).1 h
        exact ⟨piece ++ after, Cut.cons hp ha, by rw [List.append_assoc]; exact h⟩
      · intro h
        obtain ⟨_, hall, h⟩ := h
        obtain ⟨piece, after, hp, ha, rfl⟩ := cut_cons_iff.1 hall
        rw [List.append_assoc] at h
        exact ⟨after, ha, (hunit _).2 ⟨piece, hp, h⟩⟩

theorem carries_stepMarks (text : List Char) :
    Carries text (stepMarks text) RegexStep.Takes :=
  fun step _ hm => ⟨covers_stepMarks step hm, fun _ => marked_stepMarks hm⟩

theorem marked_zipWith_or {text rest : List Char} {marks others : List Bool}
    (hm : Covers marks text) (ho : Covers others text) :
    Marked text (List.zipWith (· || ·) marks others) rest ↔
      Marked text marks rest ∨ Marked text others rest := by
  induction text generalizing marks others with
  | nil =>
      obtain ⟨mark, rfl⟩ := covers_nil_iff.1 hm
      obtain ⟨other, rfl⟩ := covers_nil_iff.1 ho
      simp only [List.zipWith_cons_cons, List.zipWith_nil_left, marked_nil_iff,
        Bool.or_eq_true, or_and_right]
  | cons c text ih =>
      obtain ⟨mark, marks, rfl, hms⟩ := covers_cons_iff.1 hm
      obtain ⟨other, others, rfl, hos⟩ := covers_cons_iff.1 ho
      simp only [List.zipWith_cons_cons, marked_cons_iff, ih hms hos, Bool.or_eq_true,
        or_and_right]
      exact or_or_or_comm

theorem carries_itemMarks (text : List Char) :
    Carries text (itemMarks text) RegexItem.Takes := by
  intro item marks hm
  cases item with
  | step s => exact carries_stepMarks text s marks hm
  | optional group =>
      obtain ⟨hg, hgroup⟩ := (carries_stepMarks text).foldl group marks hm
      constructor
      · rw [Covers] at hm hg ⊢
        rw [itemMarks, List.length_zipWith, hm, hg, Nat.min_self]
      · intro rest
        rw [itemMarks, marked_zipWith_or hm hg, hgroup]
        constructor
        · intro h
          rcases h with h | ⟨piece, hp, h⟩
          · exact ⟨[], Or.inl rfl, h⟩
          · exact ⟨piece, Or.inr hp, h⟩
        · intro h
          obtain ⟨piece, rfl | hp, h⟩ := h
          · exact Or.inl h
          · exact Or.inr ⟨piece, hp, h⟩

theorem getLast?_eq_some_true_iff {text : List Char} {marks : List Bool}
    (hm : Covers marks text) : marks.getLast? = some true ↔ Marked text marks [] := by
  induction text generalizing marks with
  | nil =>
      obtain ⟨mark, rfl⟩ := covers_nil_iff.1 hm
      simp [marked_nil_iff]
  | cons c text ih =>
      obtain ⟨mark, marks, rfl, hms⟩ := covers_cons_iff.1 hm
      have hne : marks ≠ [] := by
        intro h
        subst h
        cases hms
      rw [List.getLast?_cons_of_ne_nil hne, ih hms, marked_cons_iff]
      simp

/-- The marks find a way through the expression exactly when the text can be cut. -/
theorem fullMatch_iff {regex : Regex} {text : List Char} :
    regex.fullMatch text = true ↔ regex.Matches text := by
  obtain ⟨hcov, hmarked⟩ :=
    (carries_itemMarks text).foldl regex.items _ (covers_startMarks text)
  rw [fullMatch, decide_eq_true_eq, getLast?_eq_some_true_iff hcov, hmarked]
  simp only [marked_startMarks, List.append_nil]
  constructor
  · intro h
    obtain ⟨piece, h, rfl⟩ := h
    exact h
  · intro h
    exact ⟨text, h, rfl⟩

/-- A single item matches what it takes. -/
theorem fullMatch_singleton {item : RegexItem} {piece : List Char} :
    fullMatch ⟨[item]⟩ piece = true ↔ item.Takes piece := by
  rw [fullMatch_iff, Matches, cut_cons_iff]
  simp only [cut_nil_iff]
  constructor
  · intro h
    obtain ⟨_, _, htakes, rfl, rfl⟩ := h
    rwa [List.append_nil]
  · intro h
    exact ⟨piece, [], h, rfl, List.append_nil piece⟩

end IgnoreRules.Regex
