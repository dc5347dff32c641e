import Mathlib.Tactic.IntervalCases
import IgnoreRules.Proofs.Results
import IgnoreRules.Text.Utf8

/-!
# The bytes of a text

A reader of bytes could go wrong in two ways: it could refuse the bytes of a text, or give
the same text for bytes that are spelled otherwise. The bounds behind each lead byte rule
the second way out, and they are tight enough to do no more: what is left are the bytes of
characters and nothing else. So the bytes that decode are those of a text, which is the
one that they decode to.

One character is read at a time, and all that happens to it depends on its lead byte, of
which there are three kinds. The first half of the file sorts them; the text follows by one
induction each way.
-/

namespace IgnoreRules.Utf8

/-! ## Lead bytes and what may follow them -/

/-- The bounds of the byte behind the first of three bytes. -/
def secondOfThree (part : Nat) : Nat × Nat :=
  (if part = 0 then 0xA0 else 0x80, if part = 13 then 0x9F else 0xBF)

/-- The bounds of the byte behind the first of four bytes. -/
def secondOfFour (part : Nat) : Nat × Nat :=
  (if part = 0 then 0x90 else 0x80, if part = 4 then 0x8F else 0xBF)

theorem secondOfThree_within {part n : Nat} (hleast : (secondOfThree part).1 ≤ n)
    (hmost : n ≤ (secondOfThree part).2) :
    0x80 ≤ n ∧ n ≤ 0xBF ∧ (part = 0 → 0xA0 ≤ n) ∧ (part = 13 → n ≤ 0x9F) := by
  dsimp only [secondOfThree] at hleast hmost
  split at hleast <;> split at hmost <;> omega

theorem secondOfFour_within {part n : Nat} (hleast : (secondOfFour part).1 ≤ n)
    (hmost : n ≤ (secondOfFour part).2) :
    0x80 ≤ n ∧ n ≤ 0xBF ∧ (part = 0 → 0x90 ≤ n) ∧ (part = 4 → n ≤ 0x8F) := by
  dsimp only [secondOfFour] at hleast hmost
  split at hleast <;> split at hmost <;> omega

theorem lead?_two {part : Nat} (hleast : 2 ≤ part) (hmost : part < 0x20) :
    lead? (0xC0 + part) = some ⟨part, [anyContinuation]⟩ := by
  interval_cases part <;> rfl

theorem lead?_three {part : Nat} (hmost : part < 0x10) :
    lead? (0xE0 + part) = some ⟨part, [secondOfThree part, anyContinuation]⟩ := by
  interval_cases part <;> rfl

theorem lead?_four {part : Nat} (hmost : part < 5) :
    lead? (0xF0 + part) =
      some ⟨part, [secondOfFour part, anyContinuation, anyContinuation]⟩ := by
  interval_cases part <;> rfl

/-- There are no other lead bytes. -/
theorem lead?_cases {b : Nat} {lead : Lead} (h : lead? b = some lead) :
    (∃ part, 2 ≤ part ∧ part < 0x20 ∧ b = 0xC0 + part) ∨
      (∃ part, part < 0x10 ∧ b = 0xE0 + part) ∨ ∃ part, part < 5 ∧ b = 0xF0 + part := by
  have hleast : 0xC2 ≤ b := by
    by_contra hsmall
    rw [lead?, if_pos (by omega)] at h
    cases h
  have hmost : b < 0xF5 := by
    by_contra hlarge
    simp only [lead?] at h
    rw [if_neg (by omega), if_neg (by omega), if_neg (by omega), if_neg (by omega),
      if_neg (by omega), if_neg (by omega), if_neg (by omega), if_neg (by omega)] at h
    cases h
  by_cases htwo : b < 0xE0
  · exact .inl ⟨b - 0xC0, by omega, by omega, by omega⟩
  · by_cases hthree : b < 0xF0
    · exact .inr (.inl ⟨b - 0xE0, by omega, by omega⟩)
    · exact .inr (.inr ⟨b - 0xF0, by omega, by omega⟩)

theorem continuation_nil_eq_ok_iff {code taken result : Nat} {bytes rest : List UInt8} :
    continuation code taken [] bytes = .ok (result, rest) ↔ code = result ∧ bytes = rest := by
  simp [continuation]

theorem continuation_cons_eq_ok_iff {code taken : Nat} {bound : Nat × Nat}
    {bounds : List (Nat × Nat)} {bytes : List UInt8} {result : Nat × List UInt8} :
    continuation code taken (bound :: bounds) bytes = .ok result ↔
      ∃ b later, bytes = b :: later ∧ bound.1 ≤ b.toNat ∧ b.toNat ≤ bound.2 ∧
        continuation (64 * code + (b.toNat - 0x80)) (taken + 1) bounds later = .ok result := by
  cases bytes with
  | nil => simp [continuation]
  | cons b later =>
      rw [continuation]
      split
      · next hwithin => simp [hwithin]
      · next hwithout =>
          simp only [List.cons.injEq, reduceCtorEq, false_iff, not_exists]
          rintro c rest ⟨⟨rfl, -⟩, hleast, hmost, -⟩
          exact hwithout ⟨hleast, hmost⟩

/-! ## One character -/

theorem toNat_ofNat {n : Nat} (h : n < 0x100) : (UInt8.ofNat n).toNat = n :=
  UInt8.toNat_ofNat_of_lt' h

theorem ofNat_eq {b : UInt8} {n : Nat} (h : n = b.toNat) : UInt8.ofNat n = b := by
  rw [h, UInt8.ofNat_toNat]

/-- The code points of characters. -/
theorem toNat_valid (c : Char) : c.toNat < 0xD800 ∨ 0xDFFF < c.toNat ∧ c.toNat < 0x110000 :=
  c.valid

theorem toNat_charOfNat {n : Nat} (h : n < 0xD800 ∨ 0xDFFF < n ∧ n < 0x110000) :
    (Char.ofNat n).toNat = n := by
  rw [Char.ofNat, dif_pos h]
  rfl

theorem continuation_ofNat {code taken n : Nat} {bound : Nat × Nat} {bounds : List (Nat × Nat)}
    {bytes : List UInt8} (hleast : bound.1 ≤ n) (hmost : n ≤ bound.2) (hbyte : n < 0x100) :
    continuation code taken (bound :: bounds) (.ofNat n :: bytes) =
      continuation (64 * code + (n - 0x80)) (taken + 1) bounds bytes := by
  rw [continuation, toNat_ofNat hbyte]
  exact if_pos ⟨hleast, hmost⟩

theorem continuation_any {code taken n : Nat} {bounds : List (Nat × Nat)}
    {bytes : List UInt8} (h : n < 0x40) :
    continuation code taken (anyContinuation :: bounds) (.ofNat (0x80 + n) :: bytes) =
      continuation (64 * code + n) (taken + 1) bounds bytes := by
  rw [continuation_ofNat (by simp [anyContinuation]) (by simp [anyContinuation]; omega) (by omega),
    Nat.add_sub_cancel_left]

theorem decodeNext_of_lead {n part : Nat} {bounds : List (Nat × Nat)}
    {bytes rest : List UInt8} {c : Char} (hleast : 0x80 ≤ n) (hmost : n < 0x100)
    (hlead : lead? n = some ⟨part, bounds⟩)
    (h : continuation part 1 bounds bytes = .ok (c.toNat, rest)) :
    decodeNext (.ofNat n) bytes = .ok (c, rest) := by
  rw [decodeNext, toNat_ofNat hmost, if_neg (by omega), hlead]
  dsimp only
  rw [h, Except.map, Char.ofNat_toNat]

/-- Reading takes the bytes of a character off any bytes. -/
theorem decodeNext_encodeChar (c : Char) (rest : List UInt8) :
    ∃ b bytes, encodeChar c = b :: bytes ∧ decodeNext b (bytes ++ rest) = .ok (c, rest) := by
  have hvalid := toNat_valid c
  rw [encodeChar]
  split
  · next hone =>
      refine ⟨_, _, rfl, ?_⟩
      rw [decodeNext, toNat_ofNat (by omega), if_pos hone, Char.ofNat_toNat]
      rfl
  · split
    · next htwo =>
        refine ⟨_, _, rfl, decodeNext_of_lead (by omega) (by omega)
          (lead?_two (by omega) (by omega)) ?_⟩
        rw [List.singleton_append, continuation_any (by omega), continuation]
        congr 2
        omega
    · split
      · next hthree =>
          refine ⟨_, _, rfl, decodeNext_of_lead (by omega) (by omega)
            (lead?_three (by omega)) ?_⟩
          rw [List.cons_append, List.singleton_append,
            continuation_ofNat (by simp only [secondOfThree]; split <;> omega)
              (by simp only [secondOfThree]; split <;> omega) (by omega),
            continuation_any (by omega), continuation]
          congr 2
          omega
      · next hfour =>
          refine ⟨_, _, rfl, decodeNext_of_lead (by omega) (by omega)
            (lead?_four (by omega)) ?_⟩
          rw [List.cons_append, List.cons_append, List.singleton_append,
            continuation_ofNat (by simp only [secondOfFour]; split <;> omega)
              (by simp only [secondOfFour]; split <;> omega) (by omega),
            continuation_any (by omega), continuation_any (by omega), continuation]
          congr 2
          omega

theorem eq_encodeChar_of_two {b : UInt8} {part code : Nat} {bytes rest : List UInt8}
    (hb : b.toNat = 0xC0 + part) (hpart : 2 ≤ part) (hmost : part < 0x20)
    (h : continuation part 1 [anyContinuation] bytes = .ok (code, rest)) :
    b :: bytes = encodeChar (Char.ofNat code) ++ rest := by
  obtain ⟨b₁, _, rfl, hleast₁, hmost₁, h⟩ := continuation_cons_eq_ok_iff.1 h
  obtain ⟨hcode, rfl⟩ := continuation_nil_eq_ok_iff.1 h
  dsimp only [anyContinuation] at hleast₁ hmost₁
  have hrange : 0x80 ≤ code ∧ code < 0x800 := by omega
  rw [encodeChar, toNat_charOfNat (by omega), if_neg (by omega), if_pos hrange.2,
    ofNat_eq (b := b) (by omega), ofNat_eq (b := b₁) (by omega)]
  rfl

theorem eq_encodeChar_of_three {b : UInt8} {part code : Nat} {bytes rest : List UInt8}
    (hb : b.toNat = 0xE0 + part) (hmost : part < 0x10)
    (h : continuation part 1 [secondOfThree part, anyContinuation] bytes = .ok (code, rest)) :
    b :: bytes = encodeChar (Char.ofNat code) ++ rest := by
  obtain ⟨b₁, _, rfl, hleast₁, hmost₁, h⟩ := continuation_cons_eq_ok_iff.1 h
  obtain ⟨b₂, _, rfl, hleast₂, hmost₂, h⟩ := continuation_cons_eq_ok_iff.1 h
  obtain ⟨hcode, rfl⟩ := continuation_nil_eq_ok_iff.1 h
  have hsecond := secondOfThree_within hleast₁ hmost₁
  dsimp only [anyContinuation] at hleast₂ hmost₂
  -- The bounds of the second byte leave out what two bytes can say, and the surrogates.
  have hrange : 0x800 ≤ code ∧ code < 0x10000 ∧ (code < 0xD800 ∨ 0xDFFF < code) := by omega
  rw [encodeChar, toNat_charOfNat (by omega), if_neg (by omega), if_neg (by omega),
    if_pos hrange.2.1, ofNat_eq (b := b) (by omega), ofNat_eq (b := b₁) (by omega),
    ofNat_eq (b := b₂) (by omega)]
  rfl

theorem eq_encodeChar_of_four {b : UInt8} {part code : Nat} {bytes rest : List UInt8}
    (hb : b.toNat = 0xF0 + part) (hmost : part < 5)
    (h : continuation part 1 [secondOfFour part, anyContinuation, anyContinuation] bytes =
      .ok (code, rest)) :
    b :: bytes = encodeChar (Char.ofNat code) ++ rest := by
  obtain ⟨b₁, _, rfl, hleast₁, hmost₁, h⟩ := continuation_cons_eq_ok_iff.1 h
  obtain ⟨b₂, _, rfl, hleast₂, hmost₂, h⟩ := continuation_cons_eq_ok_iff.1 h
  obtain ⟨b₃, _, rfl, hleast₃, hmost₃, h⟩ := continuation_cons_eq_ok_iff.1 h
  obtain ⟨hcode, rfl⟩ := continuation_nil_eq_ok_iff.1 h
  have hsecond := secondOfFour_within hleast₁ hmost₁
  dsimp only [anyContinuation] at hleast₂ hmost₂ hleast₃ hmost₃
  have hrange : 0x10000 ≤ code ∧ code < 0x110000 := by omega
  rw [encodeChar, toNat_charOfNat (by omega), if_neg (by omega), if_neg (by omega),
    if_neg (by omega), ofNat_eq (b := b) (by omega), ofNat_eq (b := b₁) (by omega),
    ofNat_eq (b := b₂) (by omega), ofNat_eq (b := b₃) (by omega)]
  rfl

/-- What is read off bytes are the bytes of the character. -/
theorem eq_encodeChar_of_decodeNext {b : UInt8} {bytes rest : List UInt8} {c : Char}
    (h : decodeNext b bytes = .ok (c, rest)) : b :: bytes = encodeChar c ++ rest := by
  rw [decodeNext] at h
  split at h
  · next hone =>
      cases h
      rw [encodeChar, toNat_charOfNat (by omega), if_pos hone, UInt8.ofNat_toNat]
      rfl
  · split at h
    · cases h
    · next lead hlead =>
        obtain ⟨⟨code, later⟩, hcode, heq⟩ := map_eq_ok_iff.1 h
        cases heq
        rcases lead?_cases hlead with ⟨part, hpart, hmost, hb⟩ | ⟨part, hmost, hb⟩ |
          ⟨part, hmost, hb⟩
        · rw [hb, lead?_two hpart hmost] at hlead
          cases hlead
          exact eq_encodeChar_of_two hb hpart hmost hcode
        · rw [hb, lead?_three hmost] at hlead
          cases hlead
          exact eq_encodeChar_of_three hb hmost hcode
        · rw [hb, lead?_four hmost] at hlead
          cases hlead
          exact eq_encodeChar_of_four hb hmost hcode

/-! ## Texts -/

/-- Where a character ends can be told from its bytes. -/
theorem encodeChar_append_inj {c d : Char} {rest later : List UInt8}
    (h : encodeChar c ++ rest = encodeChar d ++ later) : c = d ∧ rest = later := by
  obtain ⟨b, bytes, hc, hnext⟩ := decodeNext_encodeChar c rest
  obtain ⟨b', bytes', hd, hnext'⟩ := decodeNext_encodeChar d later
  rw [hc, hd, List.cons_append, List.cons_append] at h
  obtain ⟨rfl, hbytes⟩ := List.cons.inj h
  rw [hbytes, hnext', Except.ok.injEq, Prod.mk.injEq] at hnext
  exact ⟨hnext.1.symm, hnext.2.symm⟩

theorem decodeFrom_cons_eq_ok_iff {position : Nat} {b : UInt8} {bytes : List UInt8}
    {text : List Char} :
    decodeFrom position (b :: bytes) = .ok text ↔
      ∃ c rest later, decodeNext b bytes = .ok (c, rest) ∧
        decodeFrom (position + c.utf8Size) rest = .ok later ∧ c :: later = text := by
  rw [decodeFrom]
  split
  · next hnext => simp [hnext]
  · next c rest hnext =>
      rw [map_eq_ok_iff, hnext]
      simp

/-- Decoding from any position gives a text exactly when the bytes are those of the text. -/
theorem decodeFrom_eq_ok_iff {position : Nat} {bytes : List UInt8} {text : List Char} :
    decodeFrom position bytes = .ok text ↔ bytes = encode text := by
  constructor
  · intro h
    fun_induction decodeFrom position bytes generalizing text with
    | case1 => cases h; rfl
    | case2 => cases h
    | case3 position b bytes c rest hnext _ ih =>
        obtain ⟨later, hlater, rfl⟩ := map_eq_ok_iff.1 h
        rw [eq_encodeChar_of_decodeNext hnext, ih hlater]
        rfl
  · rintro rfl
    induction text generalizing position with
    | nil => rw [encode, List.flatMap_nil, decodeFrom]
    | cons c text ih =>
        obtain ⟨b, bytes, hbytes, hnext⟩ := decodeNext_encodeChar c (encode text)
        rw [encode, List.flatMap_cons, hbytes]
        exact decodeFrom_cons_eq_ok_iff.2 ⟨c, encode text, text, hnext, ih, rfl⟩

/-- Bytes are those of a text exactly when they decode to it. -/
theorem decode_eq_ok_iff {bytes : List UInt8} {text : List Char} :
    decode bytes = .ok text ↔ bytes = encode text :=
  decodeFrom_eq_ok_iff

@[simp] theorem decode_encode (text : List Char) : decode (encode text) = .ok text :=
  decode_eq_ok_iff.2 rfl

end IgnoreRules.Utf8
