import Mathlib.Algebra.GroupWithZero.Nat
import Mathlib.Algebra.Order.BigOperators.Group.List
import Mathlib.Algebra.Order.Ring.Nat
import IgnoreRules.Proofs.Results
import IgnoreRules.Yaml.Merge

/-!
# What merging leaves alone

Evaluation merges mappings as it comes to them, and the nodes that are looked at later have been
changed. But merging changes little. It gives mappings other entries, and it makes texts out of
keys `=`; no scalar gets another text, and no node a tag that it could not have had before. This
is `Document.Kept`, and it is all that can be said while a merge is under way.

When it is over, more is true. Every merge takes one key `<<` away and puts none anywhere: what a
mapping contributes has had its own merges done. So the number of these keys only goes down, and
the fuel of a merge, which is that number, is never used up. And a mapping that has been merged
has no key `=` any more, so that a key `=` that is there was there from the start, with the same
value. `Document.Reduces` is the whole of it, and merging can fail only by finding something that
cannot be merged.
-/

namespace IgnoreRules.Yaml

/-! ## Nodes -/

/-- The content is still the same, but for the entries of a mapping. -/
def Node.Content.KeptAs : Node.Content → Node.Content → Prop
  | .mapping _, .mapping _ => True
  | content, other => content = other

theorem Node.Content.keptAs_refl (content : Node.Content) : content.KeptAs content := by
  cases content with
  | scalar text => rfl
  | sequence items => rfl
  | mapping entries => trivial

theorem Node.Content.KeptAs.trans {first second third : Node.Content} (h : first.KeptAs second)
    (h' : second.KeptAs third) : first.KeptAs third := by
  cases first <;> cases second <;> cases third <;> simp_all [KeptAs]

/-- A node is still the same, but for the entries of a mapping and the tag of a key `=`. -/
structure Node.Kept (node other : Node) : Prop where
  tag : other.tag = node.tag ∨ node.tag = .value ∧ other.tag = .text
  content : node.content.KeptAs other.content

theorem Node.kept_refl (node : Node) : node.Kept node :=
  ⟨.inl rfl, node.content.keptAs_refl⟩

theorem Node.Kept.trans {first second third : Node} (h : first.Kept second)
    (h' : second.Kept third) : first.Kept third := by
  refine ⟨?_, h.content.trans h'.content⟩
  rcases h'.tag with htag | ⟨hvalue, htext⟩
  · rw [htag]
    exact h.tag
  · rcases h.tag with htag | ⟨_, hsecond⟩
    · exact .inr ⟨htag ▸ hvalue, htext⟩
    · rw [hvalue] at hsecond
      cases hsecond

/-- The node as a key of a mapping that has been merged: it is no key `=`. -/
def Node.marked (node : Node) : Node :=
  if node.tag = .value then { node with tag := .text } else node

theorem Node.kept_marked (node : Node) : node.Kept node.marked := by
  rw [marked]
  split
  · next hvalue => exact ⟨.inr ⟨hvalue, rfl⟩, node.content.keptAs_refl⟩
  · exact node.kept_refl

theorem Node.content_marked (node : Node) : node.marked.content = node.content := by
  rw [marked]
  split <;> rfl

theorem Node.tag_marked_ne (node : Node) : node.marked.tag ≠ .value := by
  rw [marked]
  split
  · exact nofun
  · next hother => exact hother

/-! ## Documents -/

namespace Document

/-- The node is a mapping. -/
def IsMapping (document : Document) (id : NodeId) : Prop :=
  ∃ entries, (document.node id).content = .mapping entries

/-- All nodes of the document are still the same, as far as nodes are kept. -/
structure Kept (document other : Document) : Prop where
  size : other.nodes.size = document.nodes.size
  node : ∀ id, (document.node id).Kept (other.node id)

theorem Kept.refl (document : Document) : document.Kept document :=
  ⟨rfl, fun id => (document.node id).kept_refl⟩

theorem Kept.trans {first second third : Document} (h : first.Kept second)
    (h' : second.Kept third) : first.Kept third :=
  ⟨h'.size.trans h.size, fun id => (h.node id).trans (h'.node id)⟩

theorem Kept.isMapping_iff {document other : Document} (h : document.Kept other) (id : NodeId) :
    other.IsMapping id ↔ document.IsMapping id := by
  have hcontent := (h.node id).content
  rw [IsMapping, IsMapping]
  cases hfirst : (document.node id).content <;> cases hsecond : (other.node id).content <;>
    simp_all [Node.Content.KeptAs]

theorem Kept.scalar {document other : Document} (h : document.Kept other) {id : NodeId}
    {text : List Char} (htext : (other.node id).content = .scalar text) :
    (document.node id).content = .scalar text := by
  have hcontent := (h.node id).content
  rw [htext] at hcontent
  cases hfirst : (document.node id).content <;> simp_all [Node.Content.KeptAs]

/-- Only a tag of a key `=` is given up. -/
theorem Kept.tag_eq {document other : Document} (h : document.Kept other) {id : NodeId}
    (hne : (other.node id).tag ≠ .text) : (other.node id).tag = (document.node id).tag :=
  (h.node id).tag.resolve_right fun htext => hne htext.2

theorem Kept.isMerge {document other : Document} (h : document.Kept other) {entry : Entry}
    (hmerge : other.isMerge entry = true) : document.isMerge entry = true := by
  have htag : (other.node entry.1).tag = .merge := of_decide_eq_true hmerge
  exact decide_eq_true ((h.tag_eq (by rw [htag]; exact nofun)).symm.trans htag)

section

variable {document : Document} {id : NodeId}

theorem lt_size_of_isMapping (h : document.IsMapping id) : id < document.nodes.size := by
  obtain ⟨entries, hentries⟩ := h
  by_contra hge
  rw [node, Array.getD_eq_getD_getElem?, Array.getElem?_eq_none (Nat.not_lt.1 hge)] at hentries
  cases hentries

/-- One node is changed, if there is one with its number. -/
theorem node_modify_self (h : id < document.nodes.size) (f : Node → Node) :
    Document.node { document with nodes := document.nodes.modify id f } id =
      f (document.node id) := by
  rw [node, node, Array.getD_eq_getD_getElem?, Array.getD_eq_getD_getElem?, Array.getElem?_modify,
    if_pos rfl, Array.getElem?_eq_getElem h]
  rfl

theorem node_modify_ne {other : NodeId} (h : other ≠ id) (f : Node → Node) :
    Document.node { document with nodes := document.nodes.modify id f } other =
      document.node other := by
  rw [node, node, Array.getD_eq_getD_getElem?, Array.getD_eq_getD_getElem?, Array.getElem?_modify,
    if_neg h.symm]

theorem node_modify_of_size_le (h : document.nodes.size ≤ id) (f : Node → Node) :
    Document.node { document with nodes := document.nodes.modify id f } id = .empty := by
  rw [node, Array.getD_eq_getD_getElem?, Array.getElem?_modify, if_pos rfl,
    Array.getElem?_eq_none h]
  rfl

theorem node_of_size_le (h : document.nodes.size ≤ id) : document.node id = .empty := by
  rw [node, Array.getD_eq_getD_getElem?, Array.getElem?_eq_none h]
  rfl

/-- A property that holds of all nodes, and of one after its change, holds of all after it. -/
theorem forall_node_modify (property : NodeId → Node → Prop) {f : Node → Node}
    (hall : ∀ other, property other (document.node other))
    (hchanged : property id (f (document.node id))) (other : NodeId) :
    property other
      (Document.node { document with nodes := document.nodes.modify id f } other) := by
  by_cases hid : other = id
  · subst hid
    rcases Nat.lt_or_ge other document.nodes.size with hlt | hge
    · rw [node_modify_self hlt]
      exact hchanged
    · rw [node_modify_of_size_le hge, ← node_of_size_le hge]
      exact hall other
  · rw [node_modify_ne hid]
    exact hall other

/-- One node may change, as far as it is kept. -/
theorem kept_modify {f : Node → Node} (h : (document.node id).Kept (f (document.node id))) :
    document.Kept { document with nodes := document.nodes.modify id f } :=
  ⟨Array.size_modify, forall_node_modify (fun id => (document.node id).Kept)
    (fun id => (document.node id).kept_refl) h⟩

theorem kept_setEntries (h : document.IsMapping id) (entries : List Entry) :
    document.Kept (document.setEntries id entries) := by
  obtain ⟨old, hold⟩ := h
  refine kept_modify ⟨.inl rfl, ?_⟩
  rw [hold]
  trivial

theorem entries_setEntries_self (h : document.IsMapping id) (entries : List Entry) :
    (document.setEntries id entries).entries id = entries := by
  rw [Document.entries, setEntries, node_modify_self (lt_size_of_isMapping h)]

theorem entries_setEntries_ne {other : NodeId} (h : other ≠ id) (entries : List Entry) :
    (document.setEntries id entries).entries other = document.entries other := by
  rw [Document.entries, setEntries, node_modify_ne h, ← Document.entries]

theorem markValueKeys_cons (document : Document) (entry : Entry) (entries : List Entry) :
    document.markValueKeys (entry :: entries) =
      { document with nodes := document.nodes.modify entry.1 Node.marked }.markValueKeys entries :=
  rfl

theorem kept_markValueKeys (document : Document) (entries : List Entry) :
    document.Kept (document.markValueKeys entries) := by
  induction entries generalizing document with
  | nil => exact Kept.refl document
  | cons entry entries ih =>
      rw [markValueKeys_cons]
      exact (kept_modify (Node.kept_marked _)).trans (ih _)

theorem entries_markValueKeys (document : Document) (entries : List Entry) (id : NodeId) :
    (document.markValueKeys entries).entries id = document.entries id := by
  induction entries generalizing document with
  | nil => rfl
  | cons entry entries ih =>
      rw [markValueKeys_cons, ih, Document.entries, Document.entries]
      rw [forall_node_modify (fun id node => node.content = (document.node id).content)
        (fun _ => rfl) (Node.content_marked _) id]

/-- A key of a mapping that has been merged is no key `=`. -/
theorem tag_markValueKeys_ne {entries : List Entry} {entry : Entry} (h : entry ∈ entries)
    (document : Document) : ((document.markValueKeys entries).node entry.1).tag ≠ .value := by
  induction entries generalizing document with
  | nil => cases h
  | cons first entries ih =>
      rw [markValueKeys_cons]
      rcases List.mem_cons.1 h with rfl | hmem
      · have hmarked : (Document.node { document with
            nodes := document.nodes.modify entry.1 Node.marked } entry.1).tag ≠ .value := by
          rcases Nat.lt_or_ge entry.1 document.nodes.size with hlt | hge
          · rw [node_modify_self hlt]
            exact Node.tag_marked_ne _
          · rw [node_modify_of_size_le hge]
            exact nofun
        intro hvalue
        rw [(kept_markValueKeys _ entries).tag_eq (by rw [hvalue]; exact nofun)] at hvalue
        exact hmarked hvalue
      · exact ih hmem _

end

/-! ## Keys that are taken away -/

/-- How many keys `<<` a mapping has. -/
def mergesOf (document : Document) (id : NodeId) : Nat :=
  (document.entries id).countP document.isMerge

theorem mergeCount_eq_sum (document : Document) :
    document.mergeCount = ((List.range document.nodes.size).map document.mergesOf).sum := by
  rw [mergeCount, ← List.sum_eq_foldl_nat]
  congr 1
  apply List.ext_getElem
  · simp
  · intro id hleft hright
    have hlt : id < document.nodes.size := by simpa using hright
    rw [List.getElem_map, List.getElem_map, List.getElem_range, Array.getElem_toList, mergesOf,
      entries, node, Array.getD_eq_getD_getElem?, Array.getElem?_eq_getElem hlt, Option.getD_some]
    cases document.nodes[id].content <;> rfl

/-- The value stands for the mapping, under the key `=`. -/
def Stands (document : Document) (id value : NodeId) : Prop :=
  ∃ key, (key, value) ∈ document.entries id ∧ (document.node key).tag = .value

/-- Merging has made the other document out of the first. Its nodes are kept, no mapping has more
keys `<<`, and a mapping has a key `=` only if it had it before. -/
structure Reduces (document other : Document) : Prop where
  kept : document.Kept other
  merges : ∀ id, other.mergesOf id ≤ document.mergesOf id
  stands : ∀ id value, other.Stands id value → document.Stands id value

theorem Reduces.refl (document : Document) : document.Reduces document :=
  ⟨.refl document, fun _ => Nat.le_refl _, fun _ _ h => h⟩

theorem Reduces.trans {first second third : Document} (h : first.Reduces second)
    (h' : second.Reduces third) : first.Reduces third :=
  ⟨h.kept.trans h'.kept, fun id => Nat.le_trans (h'.merges id) (h.merges id),
    fun id value hstands => h.stands id value (h'.stands id value hstands)⟩

/-- The number of keys `<<` goes down, or stays. -/
theorem Reduces.mergeCount_le {document other : Document} (h : document.Reduces other) :
    other.mergeCount ≤ document.mergeCount := by
  rw [mergeCount_eq_sum, mergeCount_eq_sum, h.kept.size]
  exact List.sum_le_sum fun id _ => h.merges id

theorem Reduces.mergeCount_lt {document other : Document} (h : document.Reduces other)
    {id : NodeId} (hid : id < document.nodes.size)
    (hlt : other.mergesOf id < document.mergesOf id) :
    other.mergeCount < document.mergeCount := by
  rw [mergeCount_eq_sum, mergeCount_eq_sum, h.kept.size]
  exact List.sum_lt_sum _ _ (fun id _ => h.merges id) ⟨id, List.mem_range.2 hid, hlt⟩

/-- None of the entries has the key `<<`. -/
def NoMerges (document : Document) (entries : List Entry) : Prop :=
  ∀ entry ∈ entries, document.isMerge entry = false

theorem NoMerges.of_kept {document other : Document} {entries : List Entry}
    (h : document.NoMerges entries) (hkept : document.Kept other) : other.NoMerges entries := by
  intro entry hmem
  rw [Bool.eq_false_iff]
  exact fun hmerge => absurd (hkept.isMerge hmerge) (Bool.eq_false_iff.1 (h entry hmem))

theorem NoMerges.append {document : Document} {entries others : List Entry}
    (h : document.NoMerges entries) (h' : document.NoMerges others) :
    document.NoMerges (entries ++ others) := by
  intro entry hmem
  exact (List.mem_append.1 hmem).elim (h entry) (h' entry)

theorem noMerges_of_find? {document : Document} {entries : List Entry}
    (h : entries.find? document.isMerge = none) : document.NoMerges entries :=
  fun entry hmem => Bool.eq_false_iff.2 (List.find?_eq_none.1 h entry hmem)

theorem Kept.mergesOf_le {document other : Document} (h : document.Kept other) {id : NodeId}
    (hentries : (other.entries id).Sublist (document.entries id)) :
    other.mergesOf id ≤ document.mergesOf id :=
  Nat.le_trans (List.countP_mono_left fun _ _ => h.isMerge) hentries.countP_le

section

variable {document : Document} {id : NodeId}

/-- A mapping may lose entries. -/
theorem reduces_setEntries (h : document.IsMapping id) {entries : List Entry}
    (hentries : entries.Sublist (document.entries id)) :
    document.Reduces (document.setEntries id entries) := by
  have hkept := kept_setEntries h entries
  have hsub : ∀ other, ((document.setEntries id entries).entries other).Sublist
      (document.entries other) := by
    intro other
    by_cases hid : other = id
    · rw [hid, entries_setEntries_self h]
      exact hentries
    · rw [entries_setEntries_ne hid]
  refine ⟨hkept, fun other => hkept.mergesOf_le (hsub other), ?_⟩
  rintro other value ⟨key, hmem, htag⟩
  exact ⟨key, (hsub other).subset hmem, (hkept.tag_eq (by rw [htag]; exact nofun)).symm.trans htag⟩

theorem reduces_eraseP (h : document.IsMapping id) :
    document.Reduces
      (document.setEntries id ((document.entries id).eraseP document.isMerge)) :=
  reduces_setEntries h List.eraseP_sublist

/-- A mapping loses the first of its keys `<<`. -/
theorem mergeCount_eraseP_lt (h : document.IsMapping id) {entry : Entry}
    (hentry : (document.entries id).find? document.isMerge = some entry) :
    (document.setEntries id ((document.entries id).eraseP document.isMerge)).mergeCount <
      document.mergeCount := by
  have hreduces := reduces_eraseP h
  refine hreduces.mergeCount_lt (lt_size_of_isMapping h) ?_
  rw [mergesOf, mergesOf, entries_setEntries_self h]
  refine Nat.lt_of_le_of_lt (List.countP_mono_left fun _ _ => hreduces.kept.isMerge) ?_
  obtain ⟨first, before, after, _, hfirst, hentries, herase⟩ :=
    List.exists_of_eraseP (List.mem_of_find?_eq_some hentry) (List.find?_some hentry)
  rw [herase, hentries, List.countP_append, List.countP_append, List.countP_cons_of_pos hfirst]
  omega

/-- The end of a merge: the mapping gets all its entries, and their keys are marked. -/
theorem reduces_markValueKeys (h : document.IsMapping id) {entries : List Entry}
    (hentries : document.NoMerges entries) :
    document.Reduces ((document.setEntries id entries).markValueKeys entries) := by
  have hset := kept_setEntries h entries
  have hmark := kept_markValueKeys (document.setEntries id entries) entries
  have hkept := hset.trans hmark
  have hself : ((document.setEntries id entries).markValueKeys entries).entries id = entries := by
    rw [entries_markValueKeys, entries_setEntries_self h]
  have hne : ∀ other, other ≠ id →
      ((document.setEntries id entries).markValueKeys entries).entries other =
        document.entries other := by
    intro other hid
    rw [entries_markValueKeys, entries_setEntries_ne hid]
  refine ⟨hkept, fun other => ?_, ?_⟩
  · by_cases hid : other = id
    · subst hid
      rw [mergesOf, hself, List.countP_eq_zero.2]
      · exact Nat.zero_le _
      · exact fun entry hmem => Bool.eq_false_iff.1 (hentries.of_kept hkept entry hmem)
    · refine hkept.mergesOf_le ?_
      rw [hne other hid]
  · rintro other value ⟨key, hmem, htag⟩
    by_cases hid : other = id
    · subst hid
      rw [hself] at hmem
      exact absurd htag (tag_markValueKeys_ne hmem _)
    · rw [hne other hid] at hmem
      exact ⟨key, hmem, (hkept.tag_eq (by rw [htag]; exact nofun)).symm.trans htag⟩

end

/-! ## Merging -/

/-- What merging may give: a document that is reduced, with a property of the result, or the
fault that something cannot be merged. -/
def Merges (document : Document) {α : Type} (merged : α → Document) (holds : α → Prop) :
    Except Fault α → Prop
  | .ok result => document.Reduces (merged result) ∧ holds result
  | .error fault => ∃ reason, fault = .malformed reason

theorem merges_bind {α β : Type} {document : Document} {merged : α → Document}
    {merged' : β → Document} {holds : α → Prop} {holds' : β → Prop} {first : Except Fault α}
    {next : α → Except Fault β} (hfirst : document.Merges merged holds first)
    (hnext : ∀ result, document.Reduces (merged result) → holds result →
      document.Merges merged' holds' (next result)) :
    document.Merges merged' holds' (first >>= next) := by
  cases first with
  | error fault => exact hfirst
  | ok result => exact hnext result hfirst.1 hfirst.2

/-- What merging gives from a reduced document. -/
theorem Reduces.merges_of {α : Type} {document other : Document} (h : document.Reduces other)
    {merged : α → Document} {holds : α → Prop} {first : Except Fault α}
    (hfirst : other.Merges merged holds first) : document.Merges merged holds first := by
  cases first with
  | error fault => exact hfirst
  | ok result => exact ⟨h.trans hfirst.1, hfirst.2⟩

/-- Merging into a mapping leaves it without keys `<<`. -/
def MergesInto (document : Document) (target : NodeId) : Except Fault Document → Prop :=
  document.Merges id fun merged => merged.NoMerges (merged.entries target)

/-- What mappings contribute has no keys `<<`. -/
def Contributes (document : Document) : Except Fault (List Entry × Document) → Prop :=
  document.Merges Prod.snd fun result => result.2.NoMerges result.1

section

variable {mergeOwn : NodeId → Document → Except Fault Document} {fuel : Nat}
  (hown : ∀ target (document : Document), document.IsMapping target →
    document.mergeCount ≤ fuel → document.MergesInto target (mergeOwn target document))

include hown

theorem contributes_contributions (targets : List NodeId) {document : Document}
    (hfuel : document.mergeCount ≤ fuel) :
    document.Contributes (contributions mergeOwn targets document) := by
  induction targets generalizing document with
  | nil => exact ⟨.refl document, List.forall_mem_nil _⟩
  | cons target targets ih =>
      rw [contributions]
      split
      · next entries hentries =>
          refine merges_bind (hown target document ⟨entries, hentries⟩ hfuel)
            fun merged hmerged hnone => ?_
          have hothers := ih (Nat.le_trans hmerged.mergeCount_le hfuel)
          refine hmerged.merges_of (merges_bind hothers fun (others, last) hlast hmore => ?_)
          exact ⟨hlast, hmore.append (hnone.of_kept hlast.kept)⟩
      · exact ⟨_, rfl⟩

theorem contributes_contribution (target : NodeId) {document : Document}
    (hfuel : document.mergeCount ≤ fuel) :
    document.Contributes (contribution mergeOwn target document) := by
  rw [contribution]
  split
  · next entries hentries =>
      refine merges_bind (hown target document ⟨entries, hentries⟩ hfuel)
        fun merged hmerged hnone => ?_
      exact ⟨hmerged, hnone⟩
  · exact contributes_contributions hown _ hfuel
  · exact ⟨_, rfl⟩

end

/-- Without keys `<<`, a mapping gets what belongs to it. -/
theorem mergesInto_markValueKeys {document : Document} {target : NodeId} {merged : List Entry}
    (h : document.IsMapping target) (hmerged : document.NoMerges merged)
    (hnone : (document.entries target).find? document.isMerge = none) :
    document.MergesInto target (.ok ((document.setEntries target
      (merged ++ document.entries target)).markValueKeys
        (merged ++ document.entries target))) := by
  have hall := hmerged.append (noMerges_of_find? hnone)
  have hreduces := reduces_markValueKeys h hall
  have hentries : ((document.setEntries target (merged ++ document.entries target)).markValueKeys
      (merged ++ document.entries target)).entries target = merged ++ document.entries target := by
    rw [entries_markValueKeys, entries_setEntries_self h]
  refine ⟨hreduces, ?_⟩
  show NoMerges _ (entries _ target)
  rw [hentries]
  exact hall.of_kept hreduces.kept

/-- A merge is done with fuel for all keys `<<` that there are. -/
theorem mergesInto_mergeInto (fuel : Nat) (target : NodeId) (merged : List Entry)
    (document : Document) (h : document.IsMapping target) (hfuel : document.mergeCount ≤ fuel)
    (hmerged : document.NoMerges merged) :
    document.MergesInto target (mergeInto fuel target merged document) := by
  induction fuel generalizing target merged document with
  | zero =>
      rw [mergeInto.eq_def]
      split
      · next hnone => exact mergesInto_markValueKeys h hmerged hnone
      · next entry _ hentry => exact absurd (mergeCount_eraseP_lt h hentry) (by omega)
      · next hfuel _ => cases hfuel
  | succ fuel ih =>
      rw [mergeInto.eq_def]
      split
      · next hnone => exact mergesInto_markValueKeys h hmerged hnone
      · next hfuel _ => cases hfuel
      · next entry heq hentry =>
          cases heq
          have hless : (document.setEntries target
              ((document.entries target).eraseP document.isMerge)).mergeCount ≤ fuel :=
            Nat.le_of_lt_succ (Nat.lt_of_lt_of_le (mergeCount_eraseP_lt h hentry) hfuel)
          have hown := reduces_eraseP h
          have hnew := contributes_contribution (fun target document hmapping hfuel =>
            ih target [] document hmapping hfuel (List.forall_mem_nil _)) entry.2 hless
          refine hown.merges_of (merges_bind hnew fun (new, last) hlast hnone => ?_)
          -- The target is still a mapping in the document that its contributions have left.
          have hkept := hown.kept.trans hlast.kept
          exact hlast.merges_of (ih target (merged ++ new) last ((hkept.isMapping_iff target).2 h)
            (Nat.le_trans hlast.mergeCount_le hless) ((hmerged.of_kept hkept).append hnone))

theorem mergesInto_merge {document : Document} {target : NodeId} (h : document.IsMapping target) :
    document.MergesInto target (document.merge target) :=
  mergesInto_mergeInto document.mergeCount target [] document h (Nat.le_refl _)
    (List.forall_mem_nil _)

end Document

end IgnoreRules.Yaml
