import IgnoreRules.Markup
import IgnoreRules.Proofs.Results

/-!
# Names in markup

A name is escaped before it is shown, so that a bracket in it does not start a tag. That is
done for each name by itself. The names are then joined, and the tags are looked for in the
whole: a bracket of one name may find its end in a later one, and what lies between them was
never escaped. So the names can be shown if each of them ends outside of a possible tag, all
but the last, behind which nothing comes.

The induction is over the text of one name, with everything that follows it held fixed. Tags
that are complete in the name stand behind an odd number of backslashes, as many as they had
before and one more than that; `splitTag?_escapeTags` says that these are the only tags, and
`exists_parse_escapeTags` that no part of the name is one and that the parts make up the name.

Not quite: a backslash before a bracket that starts no tag is taken away, and nothing in the
name is there to prevent it. `unescapeBrackets` is what that leaves.
-/

namespace IgnoreRules.Markup

/-! ## Tags that are left open -/

/-- A tag starts in the text, and there is no bracket behind its first character: what
stands behind the text may close it. -/
def LeavesOpen (text : List Char) : Prop :=
  ∃ before first inside, text = before ++ '[' :: first :: inside ∧
    startsTag first = true ∧ ∀ c ∈ inside, isBracket c = false

theorem LeavesOpen.append_left {text : List Char} (h : LeavesOpen text) (before : List Char) :
    LeavesOpen (before ++ text) := by
  obtain ⟨first, start, inside, rfl, hstart, hinside⟩ := h
  exact ⟨before ++ first, start, inside, by simp, hstart, hinside⟩

/-- A text from which escaped markup can be told apart: it does not go on with the tag that
the markup before it leaves open, if it leaves one open. -/
def Separates (text tail : List Char) : Prop :=
  tail.head?.all (!startsTag ·) = true ∧
    (LeavesOpen text → ∀ c ∈ tail, isBracket c = false)

theorem Separates.of_append (before : List Char) {text tail : List Char}
    (h : Separates (before ++ text) tail) : Separates text tail :=
  ⟨h.1, fun hopen => h.2 (hopen.append_left before)⟩

/-! ## Escaping leaves the tags where they are -/

theorem startsTag_ne {c : Char} (h : startsTag c = true) : c ≠ '\\' ∧ c ≠ '[' := by
  constructor <;> rintro rfl <;> exact absurd h (by decide)

theorem escapeTags_cons_of_ne {count : Nat} {c : Char} {rest : List Char} (hslash : c ≠ '\\')
    (hopen : c ≠ '[') : escapeTags count (c :: rest) = c :: escapeTags 0 rest := by
  rw [escapeTags]
  · exact hslash
  · exact hopen

/-- Without brackets there is nothing to escape. -/
theorem exists_escapeTags_append {inside : List Char} (h : ∀ c ∈ inside, isBracket c = false)
    (count : Nat) (more : List Char) :
    ∃ left, escapeTags count (inside ++ more) = inside ++ escapeTags left more := by
  induction inside generalizing count with
  | nil => exact ⟨count, rfl⟩
  | cons c inside ih =>
      obtain ⟨hc, hinside⟩ := List.forall_mem_cons.1 h
      have hopen : c ≠ '[' := by rintro rfl; exact absurd hc (by decide)
      by_cases hslash : c = '\\'
      · subst hslash
        obtain ⟨left, hleft⟩ := ih hinside (count + 1)
        exact ⟨left, by rw [List.cons_append, escapeTags, hleft]; rfl⟩
      · obtain ⟨left, hleft⟩ := ih hinside 0
        exact ⟨left, by rw [List.cons_append, escapeTags_cons_of_ne hslash hopen, hleft]; rfl⟩

theorem isBracket_of_mem_backslashes (count : Nat) :
    ∀ c ∈ backslashes count, isBracket c = false := by
  intro c hmem
  rw [List.eq_of_mem_replicate hmem]
  rfl

/-- An escaped bracket is still the next bracket. -/
theorem exists_escapeTags_open (count : Nat) (rest : List Char) :
    ∃ slashes more, escapeTags count ('[' :: rest) = backslashes slashes ++ '[' :: more := by
  rw [escapeTags]
  split
  · exact ⟨_, _, rfl⟩
  · exact ⟨0, _, rfl⟩

theorem dropWhile_inside {inside : List Char} (h : ∀ c ∈ inside, isBracket c = false)
    (more : List Char) :
    (inside ++ more).dropWhile (!isBracket ·) = more.dropWhile (!isBracket ·) :=
  List.dropWhile_append_of_pos fun c hmem => by rw [h c hmem]; rfl

theorem takeWhile_inside {inside : List Char} (h : ∀ c ∈ inside, isBracket c = false)
    (more : List Char) :
    (inside ++ more).takeWhile (!isBracket ·) = inside ++ more.takeWhile (!isBracket ·) :=
  List.takeWhile_append_of_pos fun c hmem => by rw [h c hmem]; rfl

theorem splitTag?_of_not_startsTag {text : List Char}
    (h : text.head?.all (!startsTag ·) = true) : splitTag? text = none := by
  cases text with
  | nil => rfl
  | cons c text =>
      rw [splitTag?, if_neg]
      simpa using h

theorem splitTag?_closed {first : Char} {inside : List Char} (hstart : startsTag first = true)
    (hinside : ∀ c ∈ inside, isBracket c = false) (rest : List Char) :
    splitTag? (first :: (inside ++ ']' :: rest)) = some (first :: inside, rest) := by
  have hclose : (!isBracket ']') = false := by decide
  rw [splitTag?, if_pos hstart, dropWhile_inside hinside, takeWhile_inside hinside,
    List.dropWhile_cons_of_neg (by simp [hclose]), List.takeWhile_cons_of_neg (by simp [hclose])]
  simp

theorem splitTag?_open {first : Char} {inside : List Char}
    (hinside : ∀ c ∈ inside, isBracket c = false) (rest : List Char) :
    splitTag? (first :: (inside ++ '[' :: rest)) = none := by
  have hopen : (!isBracket '[') = false := by decide
  rw [splitTag?, dropWhile_inside hinside, List.dropWhile_cons_of_neg (by simp [hopen])]
  split <;> rfl

theorem splitTag?_endless {first : Char} {inside : List Char}
    (hinside : ∀ c ∈ inside, isBracket c = false) : splitTag? (first :: inside) = none := by
  have hdrop := dropWhile_inside hinside []
  rw [List.append_nil] at hdrop
  rw [splitTag?, hdrop]
  split <;> rfl

/-- A text goes on to its first bracket, if it has one. -/
theorem exists_inside (text : List Char) :
    ∃ inside, (∀ c ∈ inside, isBracket c = false) ∧
      (text = inside ∨ (∃ rest, text = inside ++ ']' :: rest) ∨
        ∃ rest, text = inside ++ '[' :: rest) := by
  induction text with
  | nil => exact ⟨[], List.forall_mem_nil _, .inl rfl⟩
  | cons c text ih =>
      by_cases hclose : c = ']'
      · exact ⟨[], List.forall_mem_nil _, .inr (.inl ⟨text, by rw [hclose]; rfl⟩)⟩
      by_cases hopen : c = '['
      · exact ⟨[], List.forall_mem_nil _, .inr (.inr ⟨text, by rw [hopen]; rfl⟩)⟩
      obtain ⟨inside, hinside, htext⟩ := ih
      refine ⟨c :: inside, List.forall_mem_cons.2 ⟨by simp [isBracket, hopen, hclose], hinside⟩, ?_⟩
      rcases htext with rfl | ⟨rest, rfl⟩ | ⟨rest, rfl⟩
      · exact .inl rfl
      · exact .inr (.inl ⟨rest, rfl⟩)
      · exact .inr (.inr ⟨rest, rfl⟩)

/-- A tag goes on to the first bracket behind its start, which closes it. -/
theorem splitTag?_eq {text inside rest : List Char} (h : splitTag? text = some (inside, rest)) :
    text = inside ++ ']' :: rest ∧ ∀ c ∈ inside, isBracket c = false := by
  cases text with
  | nil => cases h
  | cons first text =>
      by_cases hstart : startsTag first = true
      · obtain ⟨body, hbody, htext⟩ := exists_inside text
        rcases htext with rfl | ⟨after, rfl⟩ | ⟨after, rfl⟩
        · rw [splitTag?_endless hbody] at h
          cases h
        · rw [splitTag?_closed hstart hbody] at h
          cases h
          refine ⟨rfl, List.forall_mem_cons.2 ⟨?_, hbody⟩⟩
          simp only [isBracket, Bool.or_eq_false_iff, decide_eq_false_iff_not]
          refine ⟨(startsTag_ne hstart).2, ?_⟩
          rintro rfl
          exact absurd hstart (by decide)
        · rw [splitTag?_open hbody] at h
          cases h
      · rw [splitTag?, if_neg hstart] at h
        cases h

/-- Escaping leaves every tag where it was, and what follows makes no new one. -/
theorem splitTag?_escapeTags {rest tail : List Char} (h : Separates ('[' :: rest) tail) :
    splitTag? (escapeTags 0 rest ++ tail) =
      (splitTag? rest).map fun (inside, after) => (inside, escapeTags 0 after ++ tail) := by
  obtain ⟨hhead, hopen⟩ := h
  cases rest with
  | nil => exact splitTag?_of_not_startsTag hhead
  | cons first text =>
      by_cases hstart : startsTag first = true
      · obtain ⟨hslash, hbracket⟩ := startsTag_ne hstart
        rw [escapeTags_cons_of_ne hslash hbracket, List.cons_append]
        obtain ⟨inside, hinside, htext⟩ := exists_inside text
        rcases htext with rfl | ⟨after, rfl⟩ | ⟨after, rfl⟩
        · obtain ⟨left, hleft⟩ := exists_escapeTags_append hinside 0 []
          rw [List.append_nil, escapeTags, List.append_nil] at hleft
          have htail := hopen ⟨[], first, text, rfl, hstart, hinside⟩
          rw [hleft, splitTag?_endless hinside, splitTag?_endless]
          · rfl
          · exact List.forall_mem_append.2 ⟨hinside, htail⟩
        · obtain ⟨left, hleft⟩ := exists_escapeTags_append hinside 0 (']' :: after)
          rw [hleft, escapeTags_cons_of_ne (by decide) (by decide), List.append_assoc,
            List.cons_append, splitTag?_closed hstart hinside, splitTag?_closed hstart hinside]
          rfl
        · obtain ⟨left, hleft⟩ := exists_escapeTags_append hinside 0 ('[' :: after)
          obtain ⟨slashes, more, hmore⟩ := exists_escapeTags_open left after
          rw [hleft, hmore, List.append_assoc, List.append_assoc, ← List.append_assoc inside,
            List.cons_append, splitTag?_open hinside, splitTag?_open]
          · rfl
          · exact List.forall_mem_append.2 ⟨hinside, isBracket_of_mem_backslashes slashes⟩
      · have hbare : splitTag? (first :: text) = none :=
          splitTag?_of_not_startsTag (by simpa using hstart)
        rw [hbare]
        refine splitTag?_of_not_startsTag ?_
        by_cases hslash : first = '\\'
        · subst hslash
          rfl
        by_cases hbracket : first = '['
        · subst hbracket
          rw [escapeTags]
          split <;> rfl
        · rw [escapeTags_cons_of_ne hslash hbracket]
          simpa using hstart

/-! ## What escaping does not keep -/

/-- Text without the backslashes that stand before a bracket and not before a tag. -/
def unescapeBrackets : List Char → List Char
  | '\\' :: '[' :: rest =>
      if (splitTag? rest).isSome then '\\' :: '[' :: unescapeBrackets rest
      else '[' :: unescapeBrackets rest
  | c :: rest => c :: unescapeBrackets rest
  | [] => []

theorem no_backslashes (text : List Char) : backslashes 0 ++ text = text :=
  rfl

theorem unescapeBrackets_cons {c : Char} {text : List Char}
    (h : c = '\\' → ∀ rest, text = '[' :: rest → (splitTag? rest).isSome = true) :
    unescapeBrackets (c :: text) = c :: unescapeBrackets text := by
  rw [unescapeBrackets.eq_def]
  split
  · next rest heq =>
      cases heq
      rw [if_pos (h rfl rest rfl)]
      rfl
  · next heq =>
      cases heq
      rfl
  · next heq => cases heq

theorem unescapeBrackets_backslashes {text : List Char}
    (h : ∀ rest, text = '[' :: rest → (splitTag? rest).isSome = true) (count : Nat) :
    unescapeBrackets (backslashes count ++ text) = backslashes count ++ unescapeBrackets text := by
  induction count with
  | zero => rfl
  | succ count ih =>
      rw [backslashes, List.replicate_succ, List.cons_append, ← backslashes,
        unescapeBrackets_cons, ih]
      · rfl
      · intro _ rest hrest
        cases count with
        | zero => exact h rest hrest
        | succ count => cases hrest

/-- Of the backslashes before a bracket that starts no tag one is taken away. -/
theorem unescapeBrackets_bare {rest : List Char} (h : splitTag? rest = none) (count : Nat) :
    unescapeBrackets (backslashes count ++ '[' :: rest) =
      backslashes (count - 1) ++ '[' :: unescapeBrackets rest := by
  cases count with
  | zero => rfl
  | succ count =>
      have hsingle : unescapeBrackets ('\\' :: '[' :: rest) = '[' :: unescapeBrackets rest := by
        rw [unescapeBrackets, h, if_neg (by decide)]
      rw [backslashes, List.replicate_succ', List.append_assoc, ← backslashes,
        unescapeBrackets_backslashes, List.singleton_append, hsingle, Nat.add_sub_cancel]
      intro _ hopen
      cases hopen

/-- Up to the end of a tag nothing is taken away. -/
theorem unescapeBrackets_inside {inside : List Char} (h : ∀ c ∈ inside, isBracket c = false)
    (after : List Char) :
    unescapeBrackets (inside ++ ']' :: after) = inside ++ ']' :: unescapeBrackets after := by
  induction inside with
  | nil => rfl
  | cons c inside ih =>
      obtain ⟨hc, hinside⟩ := List.forall_mem_cons.1 h
      rw [List.cons_append, unescapeBrackets_cons, ih hinside]
      · rfl
      · intro _ rest hrest
        -- What follows is still inside of the tag, or ends it.
        cases inside with
        | nil => cases hrest
        | cons d inside =>
            cases hrest
            exact absurd (hinside '[' List.mem_cons_self) (by decide)

/-! ## The parts of one name -/

/-- The text in a part. -/
def Part.text : Part → List Char
  | .plain text => text
  | .tag _ => []

/-- The text in all that was parsed. -/
def allText (parsed : List Char × List Part) : List Char :=
  parsed.1 ++ parsed.2.flatMap Part.text

/-- There are no tags in what was parsed. -/
def AllPlain (parsed : List Char × List Part) : Prop :=
  ∀ part ∈ parsed.2, part.isPlain = true

/-- Backslashes wait for what follows them. -/
theorem parse_backslashes (count more : Nat) (text : List Char) :
    parse count (backslashes more ++ text) = parse (count + more) text := by
  induction more generalizing count with
  | zero => rfl
  | succ more ih =>
      rw [backslashes, List.replicate_succ, List.cons_append, parse, if_pos rfl, ← backslashes, ih]
      congr 1
      omega

theorem parse_char {c : Char} (hslash : c ≠ '\\') (hopen : c ≠ '[') (count : Nat)
    (rest : List Char) :
    parse count (c :: rest) = (backslashes count ++ c :: (parse 0 rest).1, (parse 0 rest).2) := by
  rw [parse, if_neg hslash, if_neg hopen]

/-- A bracket that opens no tag is text. -/
theorem parse_bare {rest : List Char} (h : splitTag? rest = none) (count : Nat) :
    parse count ('[' :: rest) =
      (backslashes (count - 1) ++ '[' :: (parse 0 rest).1, (parse 0 rest).2) := by
  rw [parse, if_neg (by decide), if_pos rfl]
  split
  · rfl
  · next hsome => rw [h] at hsome; cases hsome

/-- A tag behind an odd number of backslashes is text. -/
theorem parse_escaped {rest inside after : List Char} (h : splitTag? rest = some (inside, after))
    {count : Nat} (hodd : count % 2 = 1) :
    parse count ('[' :: rest) =
      ([], .plain (backslashes (count / 2)) :: .plain ('[' :: inside ++ [']']) ::
        .plain (parse 0 after).1 :: (parse 0 after).2) := by
  rw [parse, if_neg (by decide), if_pos rfl]
  split
  · next hnone => rw [h] at hnone; cases hnone
  · next hsome =>
      rw [h] at hsome
      cases hsome
      rw [if_pos hodd]

/-- What was parsed starts with a text and goes on with the rest, and brings no tag with it. -/
structure Leads (front : List Char) (parsed rest : List Char × List Part) : Prop where
  allText : allText parsed = front ++ allText rest
  allPlain : AllPlain rest → AllPlain parsed

section

variable {front : List Char} {parsed rest : List Char × List Part} (h : Leads front parsed rest)

include h

theorem Leads.cons (before : List Char) (c : Char) :
    Leads (before ++ c :: front) (before ++ c :: parsed.1, parsed.2) rest where
  allText := by
    rw [List.append_assoc, List.cons_append, ← h.allText, Markup.allText, Markup.allText,
      List.append_assoc]
    rfl
  allPlain := h.allPlain

/-- A tag that is text, with backslashes before it. -/
theorem Leads.escaped (count : Nat) (inside : List Char) :
    Leads (backslashes count ++ '[' :: (inside ++ ']' :: front))
      ([], .plain (backslashes count) :: .plain ('[' :: inside ++ [']']) ::
        .plain parsed.1 :: parsed.2) rest where
  allText := by
    have htext := h.allText
    rw [Markup.allText] at htext
    simp only [Markup.allText, Part.text, List.flatMap_cons, List.nil_append]
    rw [htext]
    simp [Markup.allText]
  allPlain hrest := by
    have hparsed := h.allPlain hrest
    exact List.forall_mem_cons.2 ⟨rfl, List.forall_mem_cons.2
      ⟨rfl, List.forall_mem_cons.2 ⟨rfl, hparsed⟩⟩⟩

end

/-- Escaped text is text throughout, but for the backslashes at its end: these wait for what
follows, which is parsed as if it stood behind nothing else. -/
theorem exists_parse_escapeTags (count : Nat) {text tail : List Char} (h : Separates text tail) :
    ∃ front left,
      Leads front (parse count (escapeTags count text ++ tail)) (parse left tail) ∧
      front ++ backslashes left = unescapeBrackets (backslashes count ++ text) := by
  match text with
  | [] =>
      refine ⟨[], count, ⟨rfl, id⟩, ?_⟩
      rw [unescapeBrackets_backslashes fun _ hopen => by cases hopen]
      exact (List.append_nil _).symm
  | c :: rest =>
      by_cases hslash : c = '\\'
      · subst hslash
        obtain ⟨front, left, hleads, hfront⟩ :=
          exists_parse_escapeTags (count + 1) (h.of_append ['\\'])
        refine ⟨front, left, ?_, ?_⟩
        · rw [escapeTags, List.cons_append, parse, if_pos rfl]
          exact hleads
        · rw [hfront, backslashes, List.replicate_succ', List.append_assoc]
          rfl
      by_cases hopen : c = '['
      · subst hopen
        have hsplit := splitTag?_escapeTags h
        cases htag : splitTag? rest with
        | none =>
            rw [htag] at hsplit
            obtain ⟨front, left, hleads, hfront⟩ :=
              exists_parse_escapeTags 0 (h.of_append ['['])
            rw [no_backslashes] at hfront
            refine ⟨backslashes (count - 1) ++ '[' :: front, left, ?_, ?_⟩
            · rw [escapeTags, htag, if_neg (by decide), List.cons_append, parse_bare hsplit]
              exact hleads.cons _ _
            · rw [List.append_assoc, List.cons_append, hfront, unescapeBrackets_bare htag]
        | some tag =>
            -- A whole tag is passed over here, so the recursion is on the length of the text.
            obtain ⟨inside, after⟩ := tag
            have hlength := splitTag?_length htag
            rw [htag] at hsplit
            obtain ⟨rfl, hinside⟩ := splitTag?_eq htag
            have hafter : Separates after tail := by
              refine Separates.of_append ('[' :: (inside ++ [']'])) ?_
              rwa [List.cons_append, List.append_assoc]
            obtain ⟨front, left, hleads, hfront⟩ := exists_parse_escapeTags 0 hafter
            rw [no_backslashes] at hfront
            refine ⟨backslashes count ++ '[' :: (inside ++ ']' :: front), left, ?_, ?_⟩
            · have hhalf : (count + (count + 1)) / 2 = count := by omega
              rw [escapeTags, htag, if_pos Option.isSome_some, List.append_assoc,
                parse_backslashes, List.cons_append, parse_escaped hsplit (by omega), hhalf]
              exact hleads.escaped count inside
            · rw [unescapeBrackets_backslashes,
                unescapeBrackets_cons fun hc => absurd hc (by decide),
                unescapeBrackets_inside hinside, ← hfront]
              · simp
              · intro _ heq
                cases heq
                rw [htag]
                rfl
      · obtain ⟨front, left, hleads, hfront⟩ :=
          exists_parse_escapeTags 0 (h.of_append [c])
        rw [no_backslashes] at hfront
        refine ⟨backslashes count ++ c :: front, left, ?_, ?_⟩
        · rw [escapeTags_cons_of_ne hslash hopen, List.cons_append, parse_char hslash hopen]
          exact hleads.cons _ _
        · rw [List.append_assoc, List.cons_append, hfront, unescapeBrackets_backslashes,
            unescapeBrackets_cons]
          · exact fun hc => absurd hc hslash
          · intro _ heq
            cases heq
            exact absurd rfl hopen
termination_by text.length

/-! ## The end of one name -/

theorem trailingBackslashes_escapeTags (before : List Char) (count : Nat) (text : List Char) :
    trailingBackslashes (before ++ escapeTags count text) =
      trailingBackslashes (before ++ text) := by
  induction text generalizing before count with
  | nil => rfl
  | cons c rest ih =>
      by_cases hslash : c = '\\'
      · rw [hslash, escapeTags, List.append_cons before, ih, ← List.append_cons]
      by_cases hopen : c = '['
      · subst hopen
        rw [trailingBackslashes_append_cons hslash, ← List.nil_append rest, ← ih [] 0, escapeTags]
        split
        · rw [← List.append_assoc, trailingBackslashes_append_cons hslash]
          rfl
        · rw [trailingBackslashes_append_cons hslash]
          rfl
      · rw [escapeTags_cons_of_ne hslash hopen, List.append_cons before, ih, ← List.append_cons]

/-- What the parts of an escaped text make up. A single backslash at its end is doubled, and
that is not undone. -/
def afterEscape (text : List Char) : List Char :=
  unescapeBrackets text ++ if trailingBackslashes text = 1 then ['\\'] else []

theorem exists_parse_escape {text tail : List Char} (h : Separates text tail) :
    ∃ front left, Leads front (parse 0 (escape text ++ tail)) (parse left tail) ∧
      front ++ backslashes left = afterEscape text := by
  have htrailing := trailingBackslashes_escapeTags [] 0 text
  rw [List.nil_append, List.nil_append] at htrailing
  rw [escape, afterEscape]
  simp only [htrailing]
  split
  · have hslash : Separates text ('\\' :: tail) :=
      ⟨rfl, fun hopen => List.forall_mem_cons.2 ⟨rfl, h.2 hopen⟩⟩
    obtain ⟨front, left, hleads, hfront⟩ := exists_parse_escapeTags 0 hslash
    rw [no_backslashes] at hfront
    rw [parse, if_pos rfl] at hleads
    refine ⟨front, left + 1, ?_, ?_⟩
    · rw [List.append_assoc, List.singleton_append]
      exact hleads
    · rw [← hfront, backslashes, List.replicate_succ', ← List.append_assoc]
      rfl
  · obtain ⟨front, left, hleads, hfront⟩ := exists_parse_escapeTags 0 h
    rw [no_backslashes] at hfront
    exact ⟨front, left, hleads, by rw [hfront, List.append_nil]⟩

theorem separates_nil (text : List Char) : Separates text [] :=
  ⟨rfl, fun _ => List.forall_mem_nil _⟩

/-- By itself, an escaped text has no tags. -/
theorem isPlain_of_mem_parts_escape (text : List Char) :
    ∀ part ∈ parts (escape text), part.isPlain = true := by
  obtain ⟨front, left, hleads, _⟩ := exists_parse_escape (separates_nil text)
  rw [List.append_nil] at hleads
  refine List.forall_mem_cons.2 ⟨rfl, hleads.allPlain ?_⟩
  rw [parse]
  exact List.forall_mem_nil _

theorem text_parts_escape (text : List Char) :
    (parts (escape text)).flatMap Part.text = afterEscape text := by
  obtain ⟨front, left, hleads, hfront⟩ := exists_parse_escape (separates_nil text)
  have htext := hleads.allText
  rw [List.append_nil, allText, allText, parse, List.flatMap_nil, List.append_nil, hfront] at htext
  exact htext

/-! ## Several names -/

/-- A list of names, one a line. -/
def itemLines (names : List (List Char)) : List Char :=
  ['\n'].intercalate (names.map fun name => "- ".toList ++ escape name)

theorem itemLines_cons_cons (name next : List Char) (names : List (List Char)) :
    itemLines (name :: next :: names) =
      "- ".toList ++ (escape name ++ '\n' :: itemLines (next :: names)) := by
  simp [itemLines, List.intercalate_cons_cons]

theorem allPlain_char {c : Char} (hslash : c ≠ '\\') (hopen : c ≠ '[') (count : Nat)
    {text : List Char} : AllPlain (parse count (c :: text)) ↔ AllPlain (parse 0 text) := by
  rw [parse_char hslash hopen]
  exact Iff.rfl

theorem allPlain_item {text : List Char} :
    AllPlain (parse 0 ("- ".toList ++ text)) ↔ AllPlain (parse 0 text) := by
  rw [show "- ".toList ++ text = '-' :: ' ' :: text from rfl,
    allPlain_char (by decide) (by decide), allPlain_char (by decide) (by decide)]

/-- Names make up no tag unless one of them leaves a tag open that a later one may close. -/
theorem isPlain_of_mem_parts_itemLines {names : List (List Char)}
    (h : ∀ name ∈ names.dropLast, ¬ LeavesOpen name) :
    ∀ part ∈ parts (itemLines names), part.isPlain = true := by
  refine List.forall_mem_cons.2 ⟨rfl, ?_⟩
  change AllPlain _
  induction names with
  | nil =>
      rw [itemLines, List.map_nil, List.intercalate_nil, parse]
      exact List.forall_mem_nil _
  | cons name names ih =>
      cases names with
      | nil =>
          rw [itemLines, List.map_singleton, List.intercalate_singleton, allPlain_item]
          exact (List.forall_mem_cons.1 (isPlain_of_mem_parts_escape name)).2
      | cons next names =>
          obtain ⟨hname, hnames⟩ := List.forall_mem_cons.1 h
          have hnext : Separates name ('\n' :: itemLines (next :: names)) :=
            ⟨rfl, fun hopen => absurd hopen hname⟩
          obtain ⟨front, left, hleads, _⟩ := exists_parse_escape hnext
          rw [itemLines_cons_cons, allPlain_item]
          exact hleads.allPlain ((allPlain_char (by decide) (by decide) left).2 (ih hnames))

/-! ## What is shown -/

section

variable [Display]

theorem plainText_eq_ok {text : List Char}
    (h : ∀ part ∈ parts text, part.isPlain = true) :
    plainText text = .ok ((parts text).flatMap Part.shown) := by
  rw [plainText, Display.fault?_plain h]

/-- What closes a style before one is opened cannot be shown. -/
theorem exists_plainText_eq_error (before : List Part) {text name : List Char}
    {after : List Part}
    (hparts : parts text = before ++ .tag ('/' :: name) :: after)
    (hbefore : ∀ part ∈ before, part.isPlain = true) :
    ∃ fault, plainText text = .error fault := by
  obtain ⟨fault, hfault⟩ := Option.isSome_iff_exists.1 (Display.fault?_closing hbefore)
  exact ⟨fault, by rw [plainText, hparts, hfault]⟩

/-- Names are shown one a line unless one of them leaves a tag open that a later one may
close. -/
theorem exists_plainText_itemLines {names : List (List Char)}
    (h : ∀ name ∈ names.dropLast, ¬ LeavesOpen name) :
    ∃ shown, plainText (itemLines names) = .ok shown :=
  ⟨_, plainText_eq_ok (isPlain_of_mem_parts_itemLines h)⟩

end

end IgnoreRules.Markup
