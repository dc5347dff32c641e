import Mathlib.Data.List.Chain
import IgnoreRules.Proofs.Merging
import IgnoreRules.Yaml.Evaluation

/-!
# Faults of scalars

A scalar can be marked as what it is not, and then its value is a fault. And a mapping can take
the place of a scalar, by the value of its key `=`; if that is a mapping too, and so on, then the
text of the scalar is never found. The statement at the end leads such a fault back to the
document: there is a scalar in it whose text its tag refuses, or there are as many mappings that
stand for each other as there are steps to look for a text.

What stands in the way is that the document does not stay as it was, since mappings are merged
on the way. So the invariant of the evaluation is that its document has come out of the first
one by merging, in the sense of `Document.Reduces`: a misfit in such a document was there from
the start, and so were its keys `=`.
-/

namespace IgnoreRules.Yaml

/-! ## Scalars that do not fit -/

/-- A scalar with the text is not what the tag says. -/
def Tag.Refuses (tag : Tag) (text : List Char) (reason : ScalarFault) : Prop :=
  match tag with
  | .bool => Value.ofBoolWord text = .error (.scalar reason)
  | .int => Number.intOfText text = .error reason
  | .float => Number.floatOfText text = .error reason
  | .timestamp => Value.ofTimestamp text = .error (.scalar reason)
  | _ => False

/-- A scalar of the document does not fit the tag that it has or, in a mapping that stands for
a scalar, the tag of the mapping; or a mapping stands for a time. -/
def Document.HasMisfit (document : Document) (reason : ScalarFault) : Prop :=
  (∃ marked written text, (document.node written).content = .scalar text ∧
      (marked = written ∨ document.IsMapping marked) ∧
      (document.node marked).tag.Refuses text reason) ∨
    reason = .timeInMapping ∧ ∃ id, (document.node id).tag = .timestamp ∧ document.IsMapping id

/-- Each node of a run stands for the one before it, and the run takes all the steps that there
are to look for a text. -/
def Document.StandsTooDeep (document : Document) : Prop :=
  ∃ path : List NodeId, path.length = nestingLimit + 1 ∧ path.IsChain document.Stands

/-- The fault is due to the document. -/
def Document.Explains (document : Document) : Fault → Prop
  | .scalar reason => document.HasMisfit reason
  | .tooDeep => document.StandsTooDeep
  | .malformed _ => True

namespace Document

/-- What does not fit after merging did not fit before. -/
theorem Kept.hasMisfit {document other : Document} (h : document.Kept other)
    {reason : ScalarFault} (hmisfit : other.HasMisfit reason) : document.HasMisfit reason := by
  rcases hmisfit with ⟨marked, written, text, htext, hmarked, hrefuses⟩ | ⟨hreason, id, htag, hmap⟩
  · refine .inl ⟨marked, written, text, h.scalar htext, ?_, ?_⟩
    · rwa [h.isMapping_iff] at hmarked
    · rcases (h.node marked).tag with htag | ⟨_, htag⟩
      · rwa [htag] at hrefuses
      · rw [htag] at hrefuses
        cases hrefuses
  · refine .inr ⟨hreason, id, ?_, (h.isMapping_iff id).1 hmap⟩
    rw [← h.tag_eq (by rw [htag]; exact nofun), htag]

/-- A fault that is due to a document after merging was due to it before. -/
theorem Reduces.explains {document other : Document} (h : document.Reduces other) {fault : Fault}
    (hfault : other.Explains fault) : document.Explains fault := by
  cases fault with
  | malformed reason => trivial
  | scalar reason => exact h.kept.hasMisfit hfault
  | tooDeep =>
      obtain ⟨path, hlength, hpath⟩ := hfault
      exact ⟨path, hlength, hpath.imp h.stands⟩

end Document

/-! ## Evaluating a document -/

namespace Value

theorem floatOfText_of_ofFloatText {id : NodeId} {text : List Char} {reason : ScalarFault}
    (h : ofFloatText id text = .error (.scalar reason)) :
    Number.floatOfText text = .error reason := by
  rw [ofFloatText] at h
  split at h
  · next fault hfault =>
      cases h
      exact hfault
  · cases h
  · cases h

theorem ofBase64_eq_error {text : List Char} {fault : Fault} (h : ofBase64 text = .error fault) :
    fault = .malformed .badBinary := by
  rw [ofBase64] at h
  split at h <;> cases h
  rfl

/-- How deep a scalar lies is of no account to its text. -/
theorem ofText_ne_tooDeep (id : NodeId) (text : List Char) :
    ofBoolWord text ≠ .error .tooDeep ∧ ofFloatText id text ≠ .error .tooDeep ∧
      ofTimestamp text ≠ .error .tooDeep := by
  refine ⟨?_, ?_, ?_⟩
  · rw [ofBoolWord]
    split <;> exact nofun
  · rw [ofFloatText]
    split <;> exact nofun
  · rw [ofTimestamp]
    split
    · exact nofun
    · split <;> exact nofun
    · dsimp only
      split <;> exact nofun

end Value

namespace Document

/-- The entry that is taken for a mapping stands for it. -/
theorem stands_of_find? {document : Document} {id : NodeId} {entries : List Entry} {entry : Entry}
    (hcontent : (document.node id).content = .mapping entries)
    (hfound : entries.find? (fun entry => (document.node entry.1).tag = .value) = some entry) :
    document.Stands id entry.2 := by
  refine ⟨entry.1, ?_, by simpa using List.find?_some hfound⟩
  rw [Document.entries, hcontent]
  exact List.mem_of_find?_eq_some hfound

/-- The text of a node is that of a scalar, which it is or which stands for it. If it is not
found, the node is no scalar at all, or the steps are used up along keys `=`. -/
theorem scalarText_spec (document : Document) (fuel : Nat) (id : NodeId) :
    match document.scalarText fuel id with
    | .ok text => ∃ written, (document.node written).content = .scalar text ∧
        (id = written ∨ document.IsMapping id)
    | .error fault => fault = .malformed .wrongKind ∨ fault = .tooDeep ∧
        ∃ path : List NodeId, path.length = fuel ∧ (id :: path).IsChain document.Stands := by
  induction fuel generalizing id with
  | zero => exact .inr ⟨rfl, [], rfl, .singleton id⟩
  | succ fuel ih =>
      rw [scalarText]
      cases hcontent : (document.node id).content with
      | scalar text => exact ⟨id, hcontent, .inl rfl⟩
      | sequence items => exact .inl rfl
      | mapping entries =>
          dsimp only
          cases hfound : entries.find? (fun entry => (document.node entry.1).tag = .value) with
          | none => exact .inl rfl
          | some entry =>
              have htarget := ih entry.2
              dsimp only
              split
              · next text htext =>
                  rw [htext] at htarget
                  obtain ⟨written, hwritten, _⟩ := htarget
                  exact ⟨written, hwritten, .inr ⟨entries, hcontent⟩⟩
              · next fault hfault =>
                  rw [hfault] at htarget
                  rcases htarget with hkind | ⟨hdeep, path, hlength, hpath⟩
                  · exact .inl hkind
                  · exact .inr ⟨hdeep, entry.2 :: path, congrArg Nat.succ hlength,
                      .cons_cons (stands_of_find? hcontent hfound) hpath⟩

/-- A fault of a scalar is one of its text, or of a mapping that should be a time. -/
theorem scalarValue_misfit {document : Document} {id : NodeId} {reason : ScalarFault}
    (h : document.scalarValue id = .error (.scalar reason)) : document.HasMisfit reason := by
  have htext := document.scalarText_spec nestingLimit id
  cases hresult : document.scalarText nestingLimit id with
  | error fault =>
      rw [hresult] at htext
      rw [scalarValue, hresult] at h
      split at h <;> cases h <;> rcases htext with hkind | ⟨hdeep, _⟩ <;> contradiction
  | ok text =>
      rw [hresult] at htext
      obtain ⟨written, hwritten, hid⟩ := htext
      have hrefuses : ∀ tag, (document.node id).tag = tag → tag.Refuses text reason →
          document.HasMisfit reason := by
        rintro _ rfl hrefuses
        exact .inl ⟨id, written, text, hwritten, hid, hrefuses⟩
      rw [scalarValue, hresult] at h
      split at h
      · cases h
      · cases h
      · next htag => exact hrefuses .bool htag h
      · next htag =>
          obtain ⟨cause, hcause, heq⟩ := mapError_eq_error_iff.1 h
          cases heq
          exact hrefuses .int htag (map_eq_error_iff.1 hcause)
      · next htag => exact hrefuses .float htag (Value.floatOfText_of_ofFloatText h)
      · cases Value.ofBase64_eq_error h
      · next htag =>
          replace h : (if document.isScalar id then Value.ofTimestamp text
            else .error (.scalar .timeInMapping)) = .error (.scalar reason) := h
          split at h
          · exact hrefuses .timestamp htag h
          · next hscalar =>
              cases h
              refine .inr ⟨rfl, id, htag, hid.resolve_left fun heq => hscalar ?_⟩
              rw [isScalar, heq, hwritten]
      · cases h

/-- Once its text is found, a scalar is not too deep. -/
theorem standsTooDeep_of_scalarValue {document : Document} {id : NodeId}
    (h : document.scalarValue id = .error .tooDeep) : document.StandsTooDeep := by
  have htext := document.scalarText_spec nestingLimit id
  cases hresult : document.scalarText nestingLimit id with
  | error fault =>
      rw [hresult] at htext
      rcases htext with rfl | ⟨_, path, hlength, hpath⟩
      · rw [scalarValue, hresult] at h
        split at h <;> cases h
      · exact ⟨id :: path, congrArg Nat.succ hlength, hpath⟩
  | ok text =>
      obtain ⟨hbool, hfloat, htime⟩ := Value.ofText_ne_tooDeep id text
      rw [scalarValue, hresult] at h
      split at h
      · cases h
      · cases h
      · exact absurd h hbool
      · obtain ⟨_, _, heq⟩ := mapError_eq_error_iff.1 h
        cases heq
      · exact absurd h hfloat
      · cases Value.ofBase64_eq_error h
      · replace h : (if document.isScalar id then Value.ofTimestamp text
          else .error (.scalar .timeInMapping)) = .error .tooDeep := h
        split at h
        · exact absurd h htime
        · cases h
      · cases h

theorem scalarValue_explains {document : Document} {id : NodeId} {fault : Fault}
    (h : document.scalarValue id = .error fault) : document.Explains fault := by
  cases fault with
  | malformed reason => trivial
  | scalar reason => exact scalarValue_misfit h
  | tooDeep => exact standsTooDeep_of_scalarValue h

end Document

namespace Evaluation

variable {α β : Type} {document : Document}

/-- The document of the evaluation has come out of the document by merging, and a fault is due
to the document. -/
def Blames (document : Document) (step : Evaluate α) : Prop :=
  ∀ state, document.Reduces state.document →
    match step state with
    | .ok (_, next) => document.Reduces next.document
    | .error fault => document.Explains fault

theorem Blames.pure (value : α) : Blames document (pure value : Evaluate α) :=
  fun _ h => h

theorem Blames.bind {first : Evaluate α} {next : α → Evaluate β} (hfirst : Blames document first)
    (hnext : ∀ value, Blames document (next value)) : Blames document (first >>= next) := by
  intro state h
  have hstate := hfirst state h
  show match (first state >>= fun (value, state) => next value state) with
    | .ok (_, next) => _
    | .error fault => _
  cases hresult : first state with
  | error fault =>
      rw [hresult] at hstate
      exact hstate
  | ok result =>
      rw [hresult] at hstate
      exact hnext result.1 result.2 hstate

/-- What is done next may depend on the evaluation so far. -/
theorem Blames.get_bind {next : Evaluation → Evaluate β}
    (hnext : ∀ state, document.Reduces state.document → Blames document (next state)) :
    Blames document (get >>= next) :=
  fun state h => hnext state h state h

/-- What has been found out may be remembered. -/
theorem Blames.modify_bind {change : Evaluation → Evaluation} {next : PUnit → Evaluate β}
    (hchange : ∀ state, (change state).document = state.document)
    (hnext : ∀ value, Blames document (next value)) :
    Blames document (modify change >>= next) := by
  refine Blames.bind (fun state h => ?_) hnext
  show document.Reduces (change state).document
  rw [hchange]
  exact h

/-- A step that leaves the evaluation alone. -/
theorem blames_lift {value : Except Fault α}
    (h : ∀ fault, value = .error fault → document.Explains fault) :
    Blames document (liftM value : Evaluate α) := by
  intro state hreduces
  cases value with
  | ok value => exact hreduces
  | error fault => exact h fault rfl

theorem blames_malformed (reason : Malformation) :
    Blames document (liftM (malformed reason : Except Fault α) : Evaluate α) :=
  blames_lift fun _ hfault => by cases hfault; trivial

theorem blames_newValue (id : NodeId) : Blames document (newValue id) := by
  refine Blames.get_bind fun state h => ?_
  split
  · exact blames_lift fun fault hfault => h.explains (Document.scalarValue_explains hfault)
  · refine Blames.bind ?_ fun number => ?_
    · intro state h
      exact h
    · exact Blames.modify_bind (fun _ => rfl) fun _ => Blames.pure _

theorem blames_valueOf (id : NodeId) : Blames document (valueOf id) := by
  refine Blames.get_bind fun state h => ?_
  split
  · exact Blames.pure _
  · refine (blames_newValue id).bind fun value => ?_
    exact Blames.modify_bind (fun _ => rfl) fun _ => Blames.pure _

/-- What a node holds is what the document says by then. -/
theorem Blames.contentOf_bind {id : NodeId} {next : Node.Content → Evaluate β}
    (hnext : ∀ content, Blames document (next content)) :
    Blames document (contentOf id >>= next) :=
  Blames.bind (fun _ h => h) hnext

theorem Blames.mapM {step : α → Evaluate β} (hstep : ∀ input, Blames document (step input))
    (inputs : List α) : Blames document (inputs.mapM step) := by
  induction inputs with
  | nil => exact Blames.pure []
  | cons input inputs ih =>
      rw [List.mapM_cons]
      exact (hstep input).bind fun _ => ih.bind fun _ => Blames.pure _

theorem Blames.foldlM {step : β → α → Evaluate β}
    (hstep : ∀ start input, Blames document (step start input)) (inputs : List α) (start : β) :
    Blames document (inputs.foldlM step start) := by
  induction inputs generalizing start with
  | nil => exact Blames.pure start
  | cons input inputs ih =>
      rw [List.foldlM_cons]
      exact (hstep start input).bind ih

theorem blames_pairOf (id : NodeId) : Blames document (pairOf id) := by
  refine Blames.contentOf_bind fun content => ?_
  split
  · refine (blames_valueOf _).bind fun first => (blames_valueOf _).bind fun second => ?_
    exact Blames.bind (fun _ h => h) fun _ => Blames.pure _
  · exact blames_malformed .wrongKind

theorem blames_addEntry (entries : List (Value × Value)) (entry : Document.Entry) :
    Blames document (addEntry entries entry) := by
  refine (blames_valueOf entry.1).bind fun key => ?_
  have hrest : Blames document (do
      let value ← valueOf entry.2
      return Value.put key value entries) :=
    (blames_valueOf entry.2).bind fun _ => Blames.pure _
  split
  · exact (blames_malformed .collectionAsKey).bind fun _ => hrest
  · exact hrest

theorem lift_bind_apply (value : Except Fault α) (next : α → Evaluate β) (state : Evaluation) :
    (liftM value >>= next : Evaluate β) state = value >>= fun result => next result state := by
  cases value <;> rfl

/-- A mapping is merged before its entries are evaluated. -/
theorem entriesOf_apply (id : NodeId) (state : Evaluation) :
    entriesOf id state =
      match (state.document.node id).content with
      | .mapping _ => do
          let merged ← state.document.merge id
          (merged.entries id).foldlM addEntry [] { state with document := merged }
      | _ => malformed .wrongKind := by
  have hcontent {next : Node.Content → Evaluate (List (Value × Value))} :
      (contentOf id >>= next) state = next (state.document.node id).content state := rfl
  rw [entriesOf, hcontent]
  cases (state.document.node id).content with
  | scalar text => rfl
  | sequence items => rfl
  | mapping entries =>
      exact lift_bind_apply (state.document.merge id) (fun merged => do
        modify ({ · with document := merged })
        (merged.entries id).foldlM addEntry []) state

theorem blames_entriesOf (id : NodeId) : Blames document (entriesOf id) := by
  intro state hreduces
  rw [entriesOf_apply]
  cases hcontent : (state.document.node id).content with
  | scalar text => trivial
  | sequence items => trivial
  | mapping entries =>
      dsimp only
      have hmerges := Document.mergesInto_merge ⟨entries, hcontent⟩
      cases hmerged : state.document.merge id with
      | error fault =>
          rw [hmerged] at hmerges
          obtain ⟨reason, rfl⟩ := hmerges
          trivial
      | ok merged =>
          rw [hmerged] at hmerges
          exact Blames.foldlM blames_addEntry _ [] { state with document := merged }
            (hreduces.trans hmerges.1)

theorem blames_itemsOf {item : NodeId → Evaluate Value} (hitem : ∀ id, Blames document (item id))
    (id : NodeId) : Blames document (itemsOf item id) := by
  refine Blames.contentOf_bind fun content => ?_
  split
  · exact Blames.mapM hitem _
  · exact blames_malformed .wrongKind

theorem blames_collectionOf (id : NodeId) : Blames document (collectionOf id) := by
  refine Blames.get_bind fun state _ => ?_
  split
  · exact (blames_itemsOf blames_pairOf id).bind fun _ => Blames.pure _
  · exact (blames_itemsOf blames_pairOf id).bind fun _ => Blames.pure _
  · exact (blames_entriesOf id).bind fun _ => Blames.pure _
  · exact (blames_entriesOf id).bind fun _ => Blames.pure _
  · exact (blames_itemsOf blames_valueOf id).bind fun _ => Blames.pure _

theorem blames_fillAll (fuel : Nat) : Blames document (fillAll fuel) := by
  induction fuel with
  | zero => exact Blames.pure ()
  | succ fuel ih =>
      refine Blames.get_bind fun state _ => ?_
      split
      · exact Blames.pure ()
      · refine Blames.modify_bind (fun _ => rfl) fun _ => ?_
        refine (blames_collectionOf _).bind fun collection => ?_
        exact Blames.modify_bind (fun _ => rfl) fun _ => ih

end Evaluation

/-- A fault that stops the evaluation of a document is due to the document. -/
theorem Data.explains_of_ofDocument {document : Document} {fault : Fault}
    (h : ofDocument document = .error fault) : document.Explains fault := by
  have hevaluate : Evaluation.Blames document (do
      let root ← Evaluation.valueOf document.root
      Evaluation.fillAll document.nodes.size
      return root) := by
    refine (Evaluation.blames_valueOf document.root).bind fun root => ?_
    exact (Evaluation.blames_fillAll document.nodes.size).bind fun _ => Evaluation.Blames.pure _
  have hblames := hevaluate (.ofDocument document) (.refl document)
  rcases bind_eq_error_iff.1 h with h | ⟨_, _, h⟩
  · rw [StateT.run] at h
    rw [h] at hblames
    exact hblames
  · cases h

end IgnoreRules.Yaml
