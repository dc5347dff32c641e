import IgnoreRules.Yaml.Document

/-!
# Merging

A mapping may merge others into itself: the value of a key `<<` is a mapping or a
sequence of them. Their entries come before the own ones, so that the own ones win;
of several mappings in a sequence the first one wins, so its entries come last.
What is merged has its own merges done first. A mapping that is merged into itself
contributes what it holds by then.

Merging takes the keys `<<` away and makes the keys `=` ordinary ones. It changes
the nodes for good: the next one to look at them finds them merged. Every merge
takes one key `<<` away and adds none, so there are no more of them than such keys.
-/

namespace IgnoreRules.Yaml.Document

/-- An entry of a mapping. -/
abbrev Entry : Type :=
  NodeId × NodeId

/-- The entries of a mapping. -/
def entries (document : Document) (id : NodeId) : List Entry :=
  match (document.node id).content with
  | .mapping entries => entries
  | _ => []

/-- Gives a mapping other entries. -/
def setEntries (document : Document) (id : NodeId) (entries : List Entry) : Document :=
  { document with nodes := document.nodes.modify id ({ · with content := .mapping entries }) }

/-- The key is `<<`. -/
def isMerge (document : Document) (entry : Entry) : Bool :=
  (document.node entry.1).tag = .merge

/-- Makes the keys `=` of entries texts. -/
def markValueKeys (document : Document) (entries : List Entry) : Document :=
  let mark (node : Node) : Node := if node.tag = .value then { node with tag := .text } else node
  { document with
    nodes := entries.foldl (fun nodes entry => nodes.modify entry.1 mark) document.nodes }

/-- The entries that mappings contribute, those of the first one last. Each has its own
merges done first, by `mergeOwn`. -/
def contributions (mergeOwn : NodeId → Document → Except Fault Document) :
    List NodeId → Document → Except Fault (List Entry × Document)
  | [], document => .ok ([], document)
  | id :: ids, document =>
      match (document.node id).content with
      | .mapping _ => do
          let document ← mergeOwn id document
          let own := document.entries id
          let (others, document) ← contributions mergeOwn ids document
          return (others ++ own, document)
      | _ => .error (.malformed .badMerge)

/-- The entries that a node contributes to a mapping that it is merged into. -/
def contribution (mergeOwn : NodeId → Document → Except Fault Document) (id : NodeId)
    (document : Document) : Except Fault (List Entry × Document) :=
  match (document.node id).content with
  | .mapping _ => do
      let document ← mergeOwn id document
      return (document.entries id, document)
  | .sequence items => contributions mergeOwn items document
  | .scalar _ => .error (.malformed .badMerge)

/-- Merges into a mapping what its keys `<<` name. The entries in `merged` have been
found to belong to it already. -/
def mergeInto (fuel : Nat) (id : NodeId) (merged : List Entry) (document : Document) :
    Except Fault Document :=
  match fuel, (document.entries id).find? document.isMerge with
  | _, none =>
      let entries := merged ++ document.entries id
      .ok ((document.setEntries id entries).markValueKeys entries)
  | 0, some _ => .error .tooDeep
  | fuel + 1, some entry => do
      let own := (document.entries id).eraseP document.isMerge
      let (new, document) ←
        contribution (fun id document => mergeInto fuel id [] document) entry.2
          (document.setEntries id own)
      mergeInto fuel id (merged ++ new) document

/-- How many keys `<<` there are. -/
def mergeCount (document : Document) : Nat :=
  (document.nodes.toList.map fun node =>
    match node.content with
    | .mapping entries => entries.countP document.isMerge
    | _ => 0).foldl (· + ·) 0

/-- The document after the merges into a mapping. -/
def merge (document : Document) (id : NodeId) : Except Fault Document :=
  document.mergeInto document.mergeCount id []

end IgnoreRules.Yaml.Document
