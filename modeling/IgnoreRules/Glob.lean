/-!
# Glob bodies

A glob body is read from left to right as tokens. `**/` stands for any leading
segments, `**` for any text, `*` for any text within a segment and `?` for one
character of a segment. `[...]` stands for one character of a class, whose
content is kept as written; `[!...]` negates it. A backslash makes the next
character literal, and one at the very end is dropped.

Writing the tokens back gives the body again, but for a backslash at its end.
-/

namespace IgnoreRules.Glob

/-- One unit of a glob body. -/
inductive Token where
  /-- A character that stands for itself. -/
  | literal (c : Char)
  /-- A character behind a backslash. -/
  | escaped (c : Char)
  /-- One star: any text within a segment. -/
  | star
  /-- Two stars: any text. -/
  | doubleStar
  /-- Two stars and a slash: any leading segments. -/
  | doubleStarSlash
  /-- A question mark: one character within a segment. -/
  | question
  /-- One character of a class, written `[content]` or, negated, `[!content]`. -/
  | charClass (content : List Char) (negated : Bool)
  deriving DecidableEq, Repr

/-- Reads a class from the text behind its `[`: the content and the text after
the first `]`. A class without content or without `]` is none. -/
def splitContent? (text : List Char) : Option (List Char × List Char) :=
  match text.dropWhile (· != ']') with
  | [] => none
  | _ :: rest =>
      let content := text.takeWhile (· != ']')
      if content = [] then none else some (content, rest)

/-- Reads a class from the text behind its `[`, with an optional `!` first. -/
def splitClass? : List Char → Option (Token × List Char)
  | '!' :: text => (splitContent? text).map fun (content, rest) =>
      (.charClass content true, rest)
  | text => (splitContent? text).map fun (content, rest) =>
      (.charClass content false, rest)

theorem splitContent?_length {text content rest : List Char}
    (h : splitContent? text = some (content, rest)) :
    rest.length < text.length := by
  unfold splitContent? at h
  have hle := (List.dropWhile_suffix (· != ']') (l := text)).length_le
  split at h
  · cases h
  · rename_i heq
    rw [heq, List.length_cons] at hle
    dsimp only at h
    split at h
    · cases h
    · cases h
      omega

theorem splitContent?_content {text content rest : List Char}
    (h : splitContent? text = some (content, rest)) : content ≠ [] ∧ ']' ∉ content := by
  unfold splitContent? at h
  split at h
  · cases h
  · dsimp only at h
    split at h
    · cases h
    · next hne =>
        cases h
        refine ⟨hne, fun hmem => ?_⟩
        have := List.all_eq_true.1 List.all_takeWhile _ hmem
        simp at this

theorem splitClass?_length {text rest : List Char} {token : Token}
    (h : splitClass? text = some (token, rest)) :
    rest.length < text.length := by
  unfold splitClass? at h
  split at h
  all_goals
    obtain ⟨⟨content, after⟩, hc, heq⟩ := Option.map_eq_some_iff.1 h
    have := splitContent?_length hc
    cases heq
    simp only [List.length_cons] at *
    omega

/-- A class has a content, and no bracket in it that would end the class early. -/
def Token.IsWellFormed : Token → Prop
  | .charClass content _ => content ≠ [] ∧ ']' ∉ content
  | _ => True

theorem splitClass?_isWellFormed {text rest : List Char} {token : Token}
    (h : splitClass? text = some (token, rest)) : token.IsWellFormed := by
  unfold splitClass? at h
  split at h
  all_goals
    obtain ⟨⟨content, after⟩, hc, heq⟩ := Option.map_eq_some_iff.1 h
    cases heq
    exact splitContent?_content hc

/-- The tokens of a glob body, each the longest that fits. -/
def tokens : List Char → List Token
  | [] => []
  | '*' :: '*' :: '/' :: rest => .doubleStarSlash :: tokens rest
  | '*' :: '*' :: rest => .doubleStar :: tokens rest
  | '*' :: rest => .star :: tokens rest
  | '?' :: rest => .question :: tokens rest
  | '[' :: rest =>
      match h : splitClass? rest with
      | some (token, after) =>
          have := splitClass?_length h
          token :: tokens after
      | none => .literal '[' :: tokens rest
  | ['\\'] => []
  | '\\' :: c :: rest => .escaped c :: tokens rest
  | c :: rest => .literal c :: tokens rest
termination_by body => body.length

theorem isWellFormed_of_mem_tokens {body : List Char} {token : Token}
    (h : token ∈ tokens body) : token.IsWellFormed := by
  fun_induction tokens body with
  | case1 => cases h
  | case8 => cases h
  | case6 rest class_ after hs hlt ih =>
      rcases List.mem_cons.1 h with rfl | h
      · exact splitClass?_isWellFormed hs
      · exact ih h
  | _ =>
      rename_i ih
      rcases List.mem_cons.1 h with rfl | h
      · trivial
      · exact ih h

/-- A token as a glob writes it. -/
def Token.write : Token → List Char
  | .literal c => [c]
  | .escaped c => ['\\', c]
  | .star => ['*']
  | .doubleStar => ['*', '*']
  | .doubleStarSlash => ['*', '*', '/']
  | .question => ['?']
  | .charClass content negated =>
      '[' :: ((if negated then ['!'] else []) ++ content ++ [']'])

end IgnoreRules.Glob
