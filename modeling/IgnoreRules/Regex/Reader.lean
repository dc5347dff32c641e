import IgnoreRules.Regex.Basic
import IgnoreRules.Text.Numeral
import IgnoreRules.Unicode.Name

/-!
# Reading regular expressions

`Regex.read` reads the text of a regular expression. Outside classes the text
holds characters, backslash escapes of punctuation, `.`, a `*` behind a
character or class, and optional groups `(?:...)?`; nothing else is an
expression here.

Inside a class every character is a member, with these exceptions. A `]` ends
the class unless it comes first. `^` in front negates. A backslash names a
category, a control character or a code point, or takes the meaning from
punctuation; a backslash before any other letter or digit is refused. `-`
between two single characters makes a range, which has to be in order. What
older and newer dialects read differently is refused as ambiguous: a `[` right
after the opening bracket, a doubled `-`, `&`, `~` or `|` that is not the first
member, and `-` as the end of a range. The text is read from left to right, and
the first fault counts.
-/

namespace IgnoreRules

/-- Why a text is no regular expression. -/
inductive RegexFault where
  /-- The text breaks the grammar. -/
  | invalid
  /-- The text may be meant as a nested set or a set operation. -/
  | ambiguous
  /-- A code point is too large to be represented at all. -/
  | overflow
  deriving DecidableEq, Repr

namespace Regex

/-- The code point written by exactly `width` hexadecimal digits in front. -/
def hexEscape (width : Nat) (text : List Char) : Except RegexFault Nat :=
  match Numeral.hex? width text with
  | some code => .ok code
  | none => .error .invalid

/-- The code point of an octal escape, and how many digits it has: up to three,
for at most 255. -/
def octalEscape (text : List Char) : Except RegexFault (Nat × Nat) :=
  let digits := ((text.take 3).takeWhile fun c => (Numeral.octalDigit? c).isSome).filterMap
    Numeral.octalDigit?
  let value := Numeral.ofDigits 8 digits
  if value ≤ 255 then .ok (value, digits.length) else .error .invalid

/-- The code point of a named escape, and how many characters it spans with its
braces. -/
def namedEscape : List Char → Except RegexFault (Nat × Nat)
  | '\x7b' :: text =>
      let name := text.takeWhile (· != '\x7d')
      if name.length = text.length then .error .invalid
      else match Unicode.characterNamed? name with
        | some code => .ok (code, name.length + 2)
        | none => .error .invalid
  | _ => .error .invalid

/-- The first code point that cannot belong to a character. -/
def codeLimit : Nat := 0x110000

/-- The first code point that cannot be represented. -/
def overflowLimit : Nat := 0x80000000

/-- The member behind a backslash, and how many characters it spans. -/
def escapeAt : List Char → Except RegexFault (ClassMember × Nat)
  | [] => .error .invalid
  | 'd' :: _ => .ok (.category .digit false, 1)
  | 'D' :: _ => .ok (.category .digit true, 1)
  | 's' :: _ => .ok (.category .space false, 1)
  | 'S' :: _ => .ok (.category .space true, 1)
  | 'w' :: _ => .ok (.category .word false, 1)
  | 'W' :: _ => .ok (.category .word true, 1)
  | 'a' :: _ => .ok (.code 7, 1)
  | 'b' :: _ => .ok (.code 8, 1)
  | 't' :: _ => .ok (.code 9, 1)
  | 'n' :: _ => .ok (.code 10, 1)
  | 'v' :: _ => .ok (.code 11, 1)
  | 'f' :: _ => .ok (.code 12, 1)
  | 'r' :: _ => .ok (.code 13, 1)
  | 'x' :: text => do
      let code ← hexEscape 2 text
      return (.code code, 3)
  | 'u' :: text => do
      let code ← hexEscape 4 text
      return (.code code, 5)
  | 'U' :: text => do
      let code ← hexEscape 8 text
      if code < codeLimit then return (.code code, 9)
      else if code < overflowLimit then throw .invalid
      else throw .overflow
  | 'N' :: text => do
      let (code, span) ← namedEscape text
      return (.code code, span + 1)
  | c :: text =>
      if (Numeral.octalDigit? c).isSome then do
        let (code, span) ← octalEscape (c :: text)
        return (.code code, span)
      else if c.isAlphanum then .error .invalid
      else .ok (.code c.toNat, 1)

/-- The member that starts with `c`, and how many characters it spans behind it. -/
def memberAt (c : Char) (text : List Char) : Except RegexFault (ClassMember × Nat) :=
  if c = '\\' then escapeAt text else .ok (.code c.toNat, 0)

/-- The range between two members: both single code points, and in order. -/
def rangeOf? : ClassMember → ClassMember → Option ClassMember
  | .range low _, .range high _ => if low ≤ high then some (.range low high) else none
  | _, _ => none

/-- Characters that some dialects read as set operations when doubled. -/
def isSetOperator (c : Char) : Bool :=
  c = '-' || c = '&' || c = '~' || c = '|'

/-- Reads on behind a member: a `-` with another member behind it makes a range. -/
def readRange (low : ClassMember) : List Char → Except RegexFault (ClassMember × List Char)
  | '-' :: d :: rest =>
      if d = ']' then .ok (low, '-' :: d :: rest)
      else if d = '-' then .error .ambiguous
      else
        match memberAt d rest with
        | .error fault => .error fault
        | .ok (high, span) =>
            match rangeOf? low high with
            | none => .error .invalid
            | some range => .ok (range, rest.drop span)
  | rest => .ok (low, rest)

/-- Reads one member, which may be a range, and the text behind it. -/
def readMember (isFirst : Bool) :
    List Char → Except RegexFault (ClassMember × List Char)
  | [] => .error .invalid
  | c :: text =>
      if !isFirst ∧ isSetOperator c ∧ text.head? = some c then .error .ambiguous
      else
        match memberAt c text with
        | .error fault => .error fault
        | .ok (low, reach) => readRange low (text.drop reach)

theorem readRange_length {low member : ClassMember} {text rest : List Char}
    (h : readRange low text = .ok (member, rest)) : rest.length ≤ text.length := by
  unfold readRange at h
  split at h
  · next d text =>
      split at h
      · cases h
        exact Nat.le_refl _
      · split at h
        · cases h
        · split at h
          · cases h
          · split at h
            · cases h
            · cases h
              simp only [List.length_drop, List.length_cons]
              omega
  · cases h
    exact Nat.le_refl _

theorem readMember_length {isFirst : Bool} {member : ClassMember} {text rest : List Char}
    (h : readMember isFirst text = .ok (member, rest)) : rest.length < text.length := by
  unfold readMember at h
  split at h
  · cases h
  · split at h
    · cases h
    · split at h
      · cases h
      · have := readRange_length h
        simp only [List.length_drop, List.length_cons] at this ⊢
        omega

/-- Reads members up to the `]` that ends the class, and the text behind it.
`seen` holds the members read so far. -/
def readMembers (seen : List ClassMember) :
    List Char → Except RegexFault (List ClassMember × List Char)
  | [] => .error .invalid
  | c :: text =>
      if c = ']' ∧ seen ≠ [] then .ok (seen, text)
      else
        match h : readMember seen.isEmpty (c :: text) with
        | .error fault => .error fault
        | .ok (member, rest) =>
            have : rest.length < text.length + 1 := readMember_length h
            readMembers (seen ++ [member]) rest
termination_by text => text.length

theorem readMembers_length {seen members : List ClassMember} {text rest : List Char}
    (h : readMembers seen text = .ok (members, rest)) : rest.length < text.length := by
  fun_induction readMembers seen text generalizing members rest with
  | case1 => cases h
  | case2 => cases h; simp
  | case3 => cases h
  | case4 _ _ _ _ _ _ _ hlt ih =>
      have := ih h
      rw [List.length_cons]
      omega

/-- Reads a class from the text behind its `[`, and the text behind its end. -/
def readClass (text : List Char) : Except RegexFault (CharClass × List Char) :=
  match text with
  | '[' :: _ => .error .ambiguous
  | '^' :: text => (readMembers [] text).map fun (members, rest) => (⟨true, members⟩, rest)
  | text => (readMembers [] text).map fun (members, rest) => (⟨false, members⟩, rest)

/-- Characters that do not stand for themselves outside a class. -/
def isMeta (c : Char) : Bool :=
  "\\.^$*+?|()[]\x7b\x7d".toList.contains c

/-- Reads one class of characters in any of its spellings, and the text behind it. -/
def readAtom : List Char → Except RegexFault (CharClass × List Char)
  | '.' :: rest => .ok (.any, rest)
  | '[' :: rest => readClass rest
  | '\\' :: c :: rest => if c.isAlphanum then .error .invalid else .ok (.single c, rest)
  | c :: rest => if isMeta c then .error .invalid else .ok (.single c, rest)
  | [] => .error .invalid

theorem readClass_length {text rest : List Char} {cls : CharClass}
    (h : readClass text = .ok (cls, rest)) : rest.length < text.length := by
  unfold readClass at h
  split at h
  · cases h
  · rename_i tail
    cases hm : readMembers [] tail with
    | error fault => rw [hm] at h; cases h
    | ok result =>
        rw [hm] at h
        cases h
        have := readMembers_length hm
        simp only [List.length_cons]
        omega
  · cases hm : readMembers [] text with
    | error fault => rw [hm] at h; cases h
    | ok result =>
        rw [hm] at h
        cases h
        exact readMembers_length hm

theorem readAtom_length {text rest : List Char} {cls : CharClass}
    (h : readAtom text = .ok (cls, rest)) : rest.length < text.length := by
  unfold readAtom at h
  split at h
  · cases h
    simp
  · have := readClass_length h
    simp only [List.length_cons]
    omega
  · split at h
    · cases h
    · cases h
      simp only [List.length_cons]
      omega
  · split at h
    · cases h
    · cases h
      simp
  · cases h

/-- Reads one step, and the text behind it. -/
def readStep (text : List Char) : Except RegexFault (RegexStep × List Char) :=
  match readAtom text with
  | .error fault => .error fault
  | .ok (cls, '*' :: rest) => .ok (.many cls, rest)
  | .ok (cls, rest) => .ok (.one cls, rest)

theorem readStep_length {text rest : List Char} {step : RegexStep}
    (h : readStep text = .ok (step, rest)) : rest.length < text.length := by
  unfold readStep at h
  split at h
  · cases h
  · rename_i heq
    cases h
    have := readAtom_length heq
    simp only [List.length_cons] at this
    omega
  · rename_i heq
    cases h
    exact readAtom_length heq

/-- Reads the steps of a group up to `)?`, and the text behind it. -/
def readGroup (text : List Char) : Except RegexFault (List RegexStep × List Char) :=
  match text with
  | ')' :: '?' :: rest => .ok ([], rest)
  | text =>
      match h : readStep text with
      | .error fault => .error fault
      | .ok (step, rest) =>
          have := readStep_length h
          match readGroup rest with
          | .error fault => .error fault
          | .ok (steps, rest) => .ok (step :: steps, rest)
termination_by text.length

theorem readGroup_length {text rest : List Char} {steps : List RegexStep}
    (h : readGroup text = .ok (steps, rest)) : rest.length < text.length := by
  fun_induction readGroup text generalizing steps rest with
  | case1 tail =>
      cases h
      simp only [List.length_cons]
      omega
  | case2 => cases h
  | case3 => cases h
  | case4 text _ step tail hs _ steps' tail' hg ih =>
      cases h
      have := ih hg
      omega

/-- Reads the items of an expression. -/
def readItems (text : List Char) : Except RegexFault (List RegexItem) :=
  match text with
  | [] => .ok []
  | '(' :: '?' :: ':' :: text =>
      match h : readGroup text with
      | .error fault => .error fault
      | .ok (group, rest) =>
          have := readGroup_length h
          (readItems rest).map (.optional group :: ·)
  | text =>
      match h : readStep text with
      | .error fault => .error fault
      | .ok (step, rest) =>
          have := readStep_length h
          (readItems rest).map (.step step :: ·)
termination_by text.length

/-- Reads a regular expression. -/
def read (text : List Char) : Except RegexFault Regex :=
  (readItems text).map fun items => ⟨items⟩

end Regex

end IgnoreRules
