import IgnoreRules.Yaml.Document

/-!
# Faults of reading tokens

A text that cannot be cut into tokens any further has a fault for its next token, and the
reader of nodes raises it when it comes there. The reader has faults of its own, about the
order of the tokens and about collections that lie too deep, but none about a scalar: a
scalar is not looked into before its node is evaluated. So a fault of a scalar that stops
the reader stands among the tokens; and one of collections that lie too deep tells that many
of the tokens open collections.

The readers of nodes call each other, with less fuel each time, so what is said about them is
said about all at once, and the induction is on the fuel. What carries it is that a reader
only ever drops tokens from the front, and that each collection around it has cost one of
them. A block sequence that is not indented has no token for its start, and is paid for by
the token of its first entry, behind which its nodes are read.
-/

namespace IgnoreRules.Yaml

/-- The token starts a collection, or an entry of one that has no token for its start. -/
def Token.opens : Token → Bool
  | .flowSequenceStart | .flowMappingStart | .blockSequenceStart | .blockMappingStart => true
  | .blockEntry | .key => true
  | _ => false

/-- The fault is due to the tokens: it is one of them, or it is about their order, or so many of
them open collections that these may lie too deep. -/
inductive DueTo (all : List Token) : Fault → Prop where
  | token {fault : TextFault} (hmem : .fault fault ∈ all) : DueTo all fault.toFault
  | order (reason : Malformation) : DueTo all (.malformed reason)
  | depth (hdepth : nestingLimit < 2 * all.countP Token.opens) : DueTo all .tooDeep

/-- The tokens are left of all tokens, and so many of those before them open collections. -/
def Behind (all : List Token) (depth : Nat) (tokens : List Token) : Prop :=
  ∃ read, all = read ++ tokens ∧ depth ≤ read.countP Token.opens

section

variable {all tokens : List Token} {depth : Nat}

theorem Behind.mono {inner : Nat} (h : Behind all inner tokens) (hle : depth ≤ inner) :
    Behind all depth tokens := by
  obtain ⟨read, hread, hcount⟩ := h
  exact ⟨read, hread, Nat.le_trans hle hcount⟩

theorem Behind.tail (h : Behind all depth tokens) : Behind all depth (tokens.drop 1) := by
  obtain ⟨read, hread, hcount⟩ := h
  refine ⟨read ++ tokens.take 1, ?_, ?_⟩
  · rw [List.append_assoc, List.take_append_drop, hread]
  · rw [List.countP_append]
    exact Nat.le_add_right_of_le hcount

theorem Behind.tail_of_opens {token : Token} {rest : List Token}
    (h : Behind all depth (token :: rest)) (hopens : token.opens = true) :
    Behind all (depth + 1) rest := by
  obtain ⟨read, hread, hcount⟩ := h
  refine ⟨read ++ [token], by rw [hread, List.append_assoc]; rfl, ?_⟩
  rw [List.countP_append, List.countP_singleton, if_pos hopens]
  exact Nat.succ_le_succ hcount

theorem Behind.mem (h : Behind all depth tokens) {token : Token} (hmem : token ∈ tokens) :
    token ∈ all := by
  obtain ⟨read, rfl, _⟩ := h
  exact List.mem_append_right read hmem

theorem Behind.dueTo (h : Behind all depth tokens) (hdepth : nestingLimit < 2 * depth) :
    DueTo all .tooDeep := by
  obtain ⟨read, rfl, hcount⟩ := h
  refine .depth ?_
  rw [List.countP_append]
  omega

end

namespace NodeReader

/-! ## Steps of a reader -/

variable {α β : Type} {all : List Token}

/-- A computation on tokens: what it gives has the property, and if a fault stops it, it is due
to the tokens. -/
def Passes (all : List Token) (holds : α → Prop) : Except Fault α → Prop
  | .ok result => holds result
  | .error fault => DueTo all fault

/-- What is said of a reader is said of it behind what has been read. -/
abbrev behind (all : List Token) (depth : Nat) (result : α × NodeReader) : Prop :=
  Behind all depth result.2.tokens

/-- Nothing is said of what is computed. -/
abbrev anything (_ : α) : Prop :=
  True

theorem Passes.bind {holds : α → Prop} {holds' : β → Prop} {first : Except Fault α}
    {next : α → Except Fault β} (hfirst : Passes all holds first)
    (hnext : ∀ result, holds result → Passes all holds' (next result)) :
    Passes all holds' (first >>= next) := by
  cases first with
  | error fault => exact hfirst
  | ok result => exact hnext result hfirst

theorem Passes.map {holds : α → Prop} {holds' : β → Prop} {first : Except Fault α}
    {f : α → β} (hfirst : Passes all holds first)
    (hf : ∀ result, holds result → holds' (f result)) : Passes all holds' (first.map f) := by
  cases first with
  | error fault => exact hfirst
  | ok result => exact hf result hfirst

variable {reader : NodeReader} {depth : Nat}

/-- A look at the next token raises a fault only if it is one. -/
theorem passes_peek (h : Behind all depth reader.tokens) :
    Passes all (reader.tokens.headD .streamEnd = ·) reader.peek := by
  rw [peek]
  split
  · next htokens =>
      show reader.tokens.headD .streamEnd = .streamEnd
      rw [htokens]
      rfl
  · next fault rest htokens => exact .token (h.mem (htokens ▸ .head _))
  · next token rest _ htokens =>
      show reader.tokens.headD .streamEnd = token
      rw [htokens]
      rfl

theorem behind_skip (h : Behind all depth reader.tokens) :
    Behind all depth reader.skip.tokens :=
  h.tail

/-- Behind a token that opens a collection one more is open. -/
theorem behind_skip_of_opens (h : Behind all depth reader.tokens) {token : Token}
    (htoken : reader.tokens.headD .streamEnd = token) (hopens : token.opens = true) :
    Behind all (depth + 1) reader.skip.tokens := by
  cases htokens : reader.tokens with
  | nil =>
      rw [htokens] at htoken
      rw [← htoken] at hopens
      cases hopens
  | cons first rest =>
      rw [htokens] at h htoken
      obtain rfl : first = token := htoken
      rw [skip, htokens]
      exact h.tail_of_opens hopens

theorem passes_add (h : Behind all depth reader.tokens) (name : Option (List Char))
    (node : Node) : Passes all (behind all depth) (reader.add name node) := by
  rw [add.eq_def]
  dsimp only
  split
  · exact h
  · split
    · exact .order .repeatedAnchor
    · exact h

theorem passes_expect (h : Behind all depth reader.tokens) (token : Token)
    (reason : Malformation) :
    Passes all (fun reader => Behind all depth reader.tokens) (reader.expect token reason) := by
  refine (passes_peek h).bind fun found _ => ?_
  split
  · exact behind_skip h
  · exact .order reason

/-- Between the items of a flow collection there is a token, and none before the first. -/
theorem passes_separator (h : Behind all depth reader.tokens) (first : Bool) {holds : β → Prop}
    {next : NodeReader → Except Fault β}
    (hnext : ∀ reader, Behind all depth reader.tokens → Passes all holds (next reader)) :
    Passes all holds (do
      let reader ← if first then pure reader else reader.expect .flowEntry .unclosedCollection
      next reader) := by
  cases first with
  | true => exact hnext reader h
  | false => exact (passes_expect h _ _).bind hnext

theorem passes_readOptional (h : Behind all depth reader.tokens) (ends : List Token)
    {read : Read NodeId}
    (hread : ∀ reader, Behind all depth reader.tokens →
      Passes all (behind all depth) (read reader)) :
    Passes all (behind all depth) (readOptional ends read reader) := by
  refine (passes_peek h).bind fun found _ => ?_
  split
  · exact passes_add h none .empty
  · exact hread reader h

theorem passes_readAnchor (h : Behind all depth reader.tokens) :
    Passes all (behind all depth) (readAnchor reader) := by
  refine (passes_peek h).bind fun found _ => ?_
  split
  · exact behind_skip h
  · exact h

theorem passes_readTag (h : Behind all depth reader.tokens) :
    Passes all (behind all depth) (readTag reader) := by
  refine (passes_peek h).bind fun found _ => ?_
  split
  · exact behind_skip h
  · exact h

theorem passes_tag (tag : Option TagText) : Passes all anything (tag.mapM reader.resolveTag) := by
  cases tag with
  | none => trivial
  | some text =>
      show Passes all anything (some <$> reader.resolveTag text)
      rw [resolveTag.eq_def]
      split
      · trivial
      · split
        · trivial
        · exact .order .unknownHandle

theorem passes_readProperties (h : Behind all depth reader.tokens) :
    Passes all (behind all depth) (readProperties reader) := by
  refine (passes_readAnchor h).bind ?_
  rintro ⟨first, reader⟩ h
  refine (passes_readTag h).bind ?_
  rintro ⟨tag, reader⟩ h
  have hrest : ∀ result : Option (List Char) × NodeReader, behind all depth result →
      Passes all (behind all depth) (do
        let tag ← tag.mapM result.2.resolveTag
        return (({ anchor := result.1, tag } : Properties), result.2)) :=
    fun result h => (passes_tag tag).bind fun name _ => h
  dsimp only
  split
  · exact (passes_readAnchor h).bind hrest
  · exact hrest (first, reader) h

/-! ## Nodes -/

/-- What holds of all readers with so much fuel. A sequence that is not indented is read before
the token that pays for it. -/
structure PassesAt (all : List Token) (fuel : Nat) : Prop where
  node : ∀ depth place reader, Behind all depth reader.tokens →
    Passes all (behind all depth) (readNode fuel depth place reader)
  content : ∀ depth place properties reader, Behind all depth reader.tokens →
    Passes all (behind all depth) (readContent fuel depth place properties reader)
  blockItems : ∀ depth reader, Behind all depth reader.tokens →
    Passes all (behind all depth) (readBlockItems fuel depth reader)
  looseItems : ∀ depth reader, Behind all depth reader.tokens →
    Passes all (behind all depth) (readLooseItems fuel (depth + 1) reader)
  blockEntries : ∀ depth reader, Behind all depth reader.tokens →
    Passes all (behind all depth) (readBlockEntries fuel depth reader)
  flowItems : ∀ depth first reader, Behind all depth reader.tokens →
    Passes all (behind all depth) (readFlowItems fuel depth first reader)
  flowPair : ∀ depth closing reader, Behind all depth reader.tokens →
    Passes all (behind all depth) (readFlowPair fuel depth closing reader)
  flowEntries : ∀ depth first reader, Behind all depth reader.tokens →
    Passes all (behind all depth) (readFlowEntries fuel depth first reader)

theorem passesAt_zero : PassesAt all 0 := by
  constructor <;> intros
  · rw [readNode]; exact .order _
  · rw [readContent]; exact .order _
  · rw [readBlockItems]; exact .order _
  · rw [readLooseItems]; exact .order _
  · rw [readBlockEntries]; exact .order _
  · rw [readFlowItems]; exact .order _
  · rw [readFlowPair]; exact .order _
  · rw [readFlowEntries]; exact .order _

namespace PassesAt

variable {fuel : Nat}

theorem node_succ (ih : PassesAt all fuel) (place : Place) (h : Behind all depth reader.tokens) :
    Passes all (behind all depth) (readNode (fuel + 1) depth place reader) := by
  rw [readNode]
  refine (passes_peek h).bind fun token _ => ?_
  split
  · split
    · exact behind_skip h
    · exact .order .unknownAnchor
  · refine (passes_readProperties h).bind ?_
    rintro ⟨properties, reader⟩ h
    exact ih.content depth place properties reader h

/-- A collection is opened, read and closed. -/
theorem passes_collection {inner : Nat} (hle : depth ≤ inner) (name : Option (List Char))
    (tag : Tag) {read : Read Node.Content}
    (hread : ∀ reader, Behind all inner reader.tokens →
      Passes all (behind all inner) (read reader))
    (h : Behind all inner reader.tokens) :
    Passes all (behind all depth) (do
      let (id, reader) ← reader.add name { Node.empty with tag }
      if nestingLimit < 2 * depth then throw .tooDeep
      let (content, reader) ← read reader
      return (id, reader.close id content)) := by
  refine (passes_add h name _).bind ?_
  rintro ⟨id, reader⟩ h
  dsimp only
  split
  · next hdepth => exact (h.mono hle).dueTo hdepth
  · exact (hread reader h).bind fun content h => h.mono hle

theorem content_succ (ih : PassesAt all fuel) (place : Place) (properties : Properties)
    (h : Behind all depth reader.tokens) :
    Passes all (behind all depth) (readContent (fuel + 1) depth place properties reader) := by
  rw [readContent]
  dsimp only
  refine (passes_peek h).bind fun token htoken => ?_
  have hskip := behind_skip h
  -- What has been read becomes the content of a node, which concerns no token.
  have hread {α : Type} {read : Read α} {inner : Nat} (content : α → Node.Content)
      (hread : ∀ reader, Behind all inner reader.tokens →
        Passes all (behind all inner) (read reader)) :
      ∀ reader, Behind all inner reader.tokens → Passes all (behind all inner)
        ((read reader).map fun result => (content result.1, result.2)) :=
    fun reader h => (hread reader h).map fun _ h => h
  have hinner := Nat.le_succ depth
  split
  · exact passes_collection (Nat.le_refl depth) _ _ (hread _ (ih.looseItems depth)) h
  · exact passes_add hskip _ _
  · exact passes_collection hinner _ _ (hread _ (ih.flowItems (depth + 1) true))
      (behind_skip_of_opens h htoken rfl)
  · exact passes_collection hinner _ _ (hread _ (ih.flowEntries (depth + 1) true))
      (behind_skip_of_opens h htoken rfl)
  · exact passes_collection hinner _ _ (hread _ (ih.blockItems (depth + 1)))
      (behind_skip_of_opens h htoken rfl)
  · exact passes_collection hinner _ _ (hread _ (ih.blockItems (depth + 1)))
      (behind_skip_of_opens h htoken rfl)
  · exact passes_collection hinner _ _ (hread _ (ih.blockEntries (depth + 1)))
      (behind_skip_of_opens h htoken rfl)
  · exact passes_collection hinner _ _ (hread _ (ih.blockEntries (depth + 1)))
      (behind_skip_of_opens h htoken rfl)
  · split
    · exact .order .missingNode
    · exact passes_add h _ _

theorem blockItems_succ (ih : PassesAt all fuel) (h : Behind all depth reader.tokens) :
    Passes all (behind all depth) (readBlockItems (fuel + 1) depth reader) := by
  rw [readBlockItems]
  refine (passes_peek h).bind fun token _ => ?_
  split
  · refine (passes_readOptional (behind_skip h) _ (ih.node depth .block)).bind ?_
    rintro ⟨item, reader⟩ h
    exact (ih.blockItems depth reader h).bind fun items h => h
  · exact behind_skip h
  · exact .order .unclosedCollection

theorem looseItems_succ (ih : PassesAt all fuel) (h : Behind all depth reader.tokens) :
    Passes all (behind all depth) (readLooseItems (fuel + 1) (depth + 1) reader) := by
  rw [readLooseItems]
  refine (passes_peek h).bind fun token htoken => ?_
  split
  · refine (passes_readOptional (behind_skip_of_opens h htoken rfl) _
      (ih.node (depth + 1) .block)).bind ?_
    rintro ⟨item, reader⟩ h
    exact (ih.looseItems depth reader (h.mono (Nat.le_succ depth))).bind fun items h => h
  · exact h

theorem blockEntries_succ (ih : PassesAt all fuel) (h : Behind all depth reader.tokens) :
    Passes all (behind all depth) (readBlockEntries (fuel + 1) depth reader) := by
  rw [readBlockEntries]
  refine (passes_peek h).bind fun token _ => ?_
  split
  · exact behind_skip h
  refine (passes_expect h _ _).bind fun reader h => ?_
  refine (passes_readOptional h _ (ih.node depth .blockEntry)).bind ?_
  rintro ⟨key, reader⟩ h
  have hrest : ∀ result : NodeId × NodeReader, behind all depth result →
      Passes all (behind all depth) (do
        let others ← readBlockEntries fuel depth result.2
        return ((key, result.1) :: others.1, others.2)) :=
    fun result h => (ih.blockEntries depth result.2 h).bind fun entries h => h
  refine (passes_peek h).bind fun token _ => ?_
  split
  · exact (passes_readOptional (behind_skip h) _ (ih.node depth .blockEntry)).bind hrest
  · exact (passes_add h none .empty).bind hrest

theorem flowItems_succ (ih : PassesAt all fuel) (first : Bool)
    (h : Behind all depth reader.tokens) :
    Passes all (behind all depth) (readFlowItems (fuel + 1) depth first reader) := by
  rw [readFlowItems]
  refine (passes_peek h).bind fun token _ => ?_
  split
  · exact behind_skip h
  refine passes_separator h first fun reader h => (passes_peek h).bind fun token htoken => ?_
  split
  · exact behind_skip h
  · refine (passes_add (behind_skip_of_opens h htoken rfl) none _).bind ?_
    rintro ⟨id, reader⟩ h
    refine (ih.flowPair (depth + 1) .flowSequenceEnd reader h).bind ?_
    rintro ⟨entry, reader⟩ h
    have hclosed : Behind all depth (reader.close id (.mapping [entry])).tokens :=
      h.mono (Nat.le_succ depth)
    exact (ih.flowItems depth false _ hclosed).bind fun items h => h
  · refine (ih.node depth .flow reader h).bind ?_
    rintro ⟨item, reader⟩ h
    exact (ih.flowItems depth false reader h).bind fun items h => h

theorem flowPair_succ (ih : PassesAt all fuel) (closing : Token)
    (h : Behind all depth reader.tokens) :
    Passes all (behind all depth) (readFlowPair (fuel + 1) depth closing reader) := by
  rw [readFlowPair]
  refine (passes_readOptional h _ (ih.node depth .flow)).bind ?_
  rintro ⟨key, reader⟩ h
  refine (passes_peek h).bind fun token _ => ?_
  split
  · exact (passes_readOptional (behind_skip h) _ (ih.node depth .flow)).bind fun value h => h
  · exact (passes_add h none .empty).bind fun value h => h

theorem flowEntries_succ (ih : PassesAt all fuel) (first : Bool)
    (h : Behind all depth reader.tokens) :
    Passes all (behind all depth) (readFlowEntries (fuel + 1) depth first reader) := by
  rw [readFlowEntries]
  refine (passes_peek h).bind fun token _ => ?_
  split
  · exact behind_skip h
  refine passes_separator h first fun reader h => (passes_peek h).bind fun token _ => ?_
  split
  · exact behind_skip h
  · refine (ih.flowPair depth .flowMappingEnd _ (behind_skip h)).bind ?_
    rintro ⟨entry, reader⟩ h
    exact (ih.flowEntries depth false reader h).bind fun entries h => h
  · refine (ih.node depth .flow reader h).bind ?_
    rintro ⟨key, reader⟩ h
    refine (passes_add h none .empty).bind ?_
    rintro ⟨value, reader⟩ h
    exact (ih.flowEntries depth false reader h).bind fun entries h => h

end PassesAt

theorem passesAt (all : List Token) (fuel : Nat) : PassesAt all fuel := by
  induction fuel with
  | zero => exact passesAt_zero
  | succ fuel ih =>
      exact {
        node := fun _ place _ h => ih.node_succ place h
        content := fun _ place properties _ h => ih.content_succ place properties h
        blockItems := fun _ _ h => ih.blockItems_succ h
        looseItems := fun _ _ h => ih.looseItems_succ h
        blockEntries := fun _ _ h => ih.blockEntries_succ h
        flowItems := fun _ first _ h => ih.flowItems_succ first h
        flowPair := fun _ closing _ h => ih.flowPair_succ closing h
        flowEntries := fun _ first _ h => ih.flowEntries_succ first h }

/-! ## Documents -/

theorem passes_readDirectives {tokens : List Token} (h : Behind all 0 tokens) (hasVersion : Bool)
    (handles : List (List Char × List Char)) :
    Passes all (fun result => Behind all 0 result.2)
      (readDirectives hasVersion handles tokens) := by
  fun_induction readDirectives hasVersion handles tokens with
  | case1 => exact .token (h.mem (.head _))
  | case2 => exact .order .repeatedVersion
  | case3 => exact .order .unsupportedVersion
  | case4 _ _ _ _ _ _ _ ih => exact ih h.tail
  | case5 => exact .order .repeatedHandle
  | case6 _ _ _ _ _ _ ih => exact ih h.tail
  | case7 _ _ _ ih => exact ih h.tail
  | case8 => exact h

theorem passes_toDocument {read : Read NodeId} (h : Passes all (behind all 0) (read reader)) :
    Passes all (fun result => Behind all 0 result.2) (reader.toDocument read) :=
  h.bind fun _ h => h

theorem passes_readDocument (h : Behind all 0 reader.tokens) :
    Passes all (fun result => Behind all 0 result.2) reader.readDocument :=
  passes_toDocument ((passesAt all _).node 0 .block reader h)

theorem passes_readMarkedDocument {tokens : List Token} (h : Behind all 0 tokens) :
    Passes all (fun result => Behind all 0 result.2) (readMarkedDocument tokens) := by
  refine (passes_readDirectives h false []).bind ?_
  rintro ⟨handles, tokens⟩ h
  have hreader : Behind all 0 (ofTokens handles tokens).tokens := h
  refine (passes_expect hreader _ _).bind fun reader h => ?_
  refine (passes_peek h).bind fun token _ => ?_
  split
  · exact passes_toDocument (passes_add h none .empty)
  · exact passes_toDocument (passes_add h none .empty)
  · exact passes_toDocument (passes_add h none .empty)
  · exact passes_toDocument (passes_add h none .empty)
  · exact passes_readDocument h

theorem passes_readEnd {tokens : List Token} (h : Behind all 0 tokens) :
    Passes all anything (readEnd tokens) := by
  fun_induction readEnd tokens with
  | case1 rest ih => exact ih h.tail
  | case2 => trivial
  | case3 => trivial
  | case4 tokens => exact (passes_readDirectives h false []).bind fun _ _ => .order _

theorem passes_ofTokens (tokens : List Token) :
    Passes tokens anything (Document.ofTokens tokens) := by
  have hall : Behind tokens 0 tokens := ⟨[], rfl, Nat.zero_le _⟩
  have hreader : Behind tokens 0 (ofTokens [] tokens).tokens := hall
  refine (passes_peek hreader).bind fun token _ => ?_
  split
  · trivial
  · refine (passes_readMarkedDocument hall).bind ?_
    rintro ⟨document, rest⟩ h
    exact (passes_readEnd h).bind fun _ _ => trivial
  · refine (passes_readMarkedDocument hall).bind ?_
    rintro ⟨document, rest⟩ h
    exact (passes_readEnd h).bind fun _ _ => trivial
  · refine (passes_readDocument hreader).bind ?_
    rintro ⟨document, rest⟩ h
    exact (passes_readEnd h).bind fun _ _ => trivial

end NodeReader

/-- A fault that stops the reading of tokens is due to them. -/
theorem Document.dueTo_of_ofTokens {tokens : List Token} {fault : Fault}
    (h : ofTokens tokens = .error fault) : DueTo tokens fault := by
  have hpasses := NodeReader.passes_ofTokens tokens
  rw [h] at hpasses
  exact hpasses

theorem DueTo.mem_of_scalar {tokens : List Token} {reason : ScalarFault}
    (h : DueTo tokens (.scalar reason)) : .fault (.scalar reason) ∈ tokens := by
  generalize hfault : Fault.scalar reason = fault at h
  cases h with
  | token hmem =>
      rename_i cause
      cases cause <;> cases hfault
      exact hmem
  | order => cases hfault
  | depth => cases hfault

theorem DueTo.lt_of_tooDeep {tokens : List Token} (h : DueTo tokens .tooDeep) :
    nestingLimit < 2 * tokens.countP Token.opens := by
  generalize hfault : Fault.tooDeep = fault at h
  cases h with
  | token hmem =>
      rename_i cause
      cases cause <;> cases hfault
  | order => cases hfault
  | depth hdepth => exact hdepth

end IgnoreRules.Yaml
