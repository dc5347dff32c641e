/-!
# Cuts of a text

A sequence of units describes a text when the text can be cut into consecutive
pieces, one for each unit in order, and each unit takes its piece. What a unit
takes is left open, so that glob tokens, regular expression items and the steps of
a group share one notion of a cut.
-/

namespace IgnoreRules

/-- The text is cut into consecutive pieces that the units take, one each. -/
inductive Cut {α : Type} (takes : α → List Char → Prop) : List α → List Char → Prop where
  | nil : Cut takes [] []
  | cons {unit : α} {units : List α} {piece rest : List Char} :
      takes unit piece → Cut takes units rest → Cut takes (unit :: units) (piece ++ rest)

section

variable {α : Type} {takes : α → List Char → Prop}

theorem cut_nil_iff {text : List Char} : Cut takes [] text ↔ text = [] := by
  constructor
  · intro h
    cases h
    rfl
  · intro h
    subst h
    exact Cut.nil

theorem cut_cons_iff {unit : α} {units : List α} {text : List Char} :
    Cut takes (unit :: units) text ↔
      ∃ piece rest, takes unit piece ∧ Cut takes units rest ∧ piece ++ rest = text := by
  constructor
  · intro h
    cases h with
    | cons hp hr => exact ⟨_, _, hp, hr, rfl⟩
  · intro h
    obtain ⟨piece, rest, hp, hr, rfl⟩ := h
    exact Cut.cons hp hr

end

end IgnoreRules
