import Mathlib.Data.List.Chain
import IgnoreRules.Config.OfData
import IgnoreRules.Proofs.Results

/-!
# Values that cannot be shown

A configuration that has another shape than it should is refused with a message that shows
the value in question, and a value may be a collection with others in it. All values can be
shown but for two reasons. Collections may lie too deep in one another, and a whole number
may have too many digits. So the refusal of a configuration fails for one of these two only,
and in both cases the culprit is in the document: such a number lies in a collection, or there
are as many collections inside each other as a message has steps for, none of them twice.

The collections around a value are remembered while it is written, so as to tell one that lies
in itself. They are the run of collections that is looked for, and the induction over the steps
says of them that each lies in the next.
-/

namespace IgnoreRules.Yaml

/-- What a collection holds, in any order. -/
def Collection.members : Collection → List Value
  | .list items => items
  | .mapping entries => entries.flatMap fun (key, value) => [key, value]
  | .set keys => keys
  | .pair first second => [first, second]

/-- The value lies in some collection. -/
def Mentions (collections : Array Collection) (value : Value) : Prop :=
  ∃ collection ∈ collections, value ∈ collection.members

/-- The number has more digits than are written. -/
def IsOverlong (n : Int) : Prop :=
  Decimal.digitLimit < (Decimal.natural n.natAbs).length

/-- The value lies in the collection with the number. -/
def LiesIn (collections : Array Collection) (value : Value) (id : CollectionId) : Prop :=
  ∃ held, collections[id]? = some held ∧ value ∈ held.members

/-- The collections lie in one another, each in the next, and none of them is there twice. -/
structure IsNest (collections : Array Collection) (path : List CollectionId) : Prop where
  nodup : path.Nodup
  lies : path.IsChain fun inner outer => LiesIn collections (.collection inner) outer

/-- As many collections lie in one another as there are steps for a message. -/
def NestsTooDeep (collections : Array Collection) : Prop :=
  ∃ path, path.length = nestingLimit ∧ IsNest collections path

/-- The two faults on the way of writing a value that lies in the `outer` collections, in so many
steps: with what lies in it there are as many collections inside each other as steps, or a number
is too long, which lies in some collection or is the value itself. -/
def Unwritable (collections : Array Collection) (limit : Nat) (outer : List CollectionId)
    (value : Value) (fault : Fault) : Prop :=
  (fault = .tooDeep ∧
      ∃ path, path.length = outer.length + limit ∧ IsNest collections path) ∨
    fault = .scalar .tooManyDigits ∧
      ∃ n, IsOverlong n ∧ (value = .int n ∨ Mentions collections (.int n))

theorem isNest_nil (collections : Array Collection) : IsNest collections [] :=
  ⟨.nil, .nil⟩

theorem IsNest.cons {collections : Array Collection} {path : List CollectionId}
    (h : IsNest collections path) {id : CollectionId} (hnew : id ∉ path)
    (hlies : ∀ outer ∈ path.head?, LiesIn collections (.collection id) outer) :
    IsNest collections (id :: path) :=
  ⟨List.nodup_cons.2 ⟨hnew, h.nodup⟩, h.lies.cons hlies⟩

/-- What is wrong with a member of a collection is wrong with the collection. -/
theorem Unwritable.of_member {collections : Array Collection} {limit : Nat}
    {outer : List CollectionId} {id : CollectionId} {held : Collection} {member : Value}
    {fault : Fault} (hheld : collections[id]? = some held) (hmember : member ∈ held.members)
    (h : Unwritable collections limit (id :: outer) member fault) :
    Unwritable collections (limit + 1) outer (.collection id) fault := by
  rcases h with ⟨hfault, path, hlength, hpath⟩ | ⟨hfault, n, hlong, rfl | hmentions⟩
  · refine .inl ⟨hfault, path, ?_, hpath⟩
    rw [hlength, List.length_cons, Nat.succ_add_eq_add_succ]
  · exact .inr ⟨hfault, n, hlong, .inr ⟨held, Array.mem_of_getElem? hheld, hmember⟩⟩
  · exact .inr ⟨hfault, n, hlong, .inr hmentions⟩

namespace Value

theorem place_subset (size : Nat) (taken : List (Nat × Value)) (member : Int × Value) :
    ∀ slot ∈ SetOrder.place size taken member, slot ∈ taken ∨ slot.2 = member.2 := by
  intro slot hmem
  rw [SetOrder.place] at hmem
  split at hmem
  · rcases List.mem_cons.1 hmem with rfl | hmem
    · exact .inr rfl
    · exact .inl hmem
  · exact .inl hmem

theorem mem_of_mem_place {size : Nat} {hashed : List (Int × Value)} {taken : List (Nat × Value)}
    {slot : Nat × Value} (h : slot ∈ hashed.foldl (SetOrder.place size) taken) :
    slot ∈ taken ∨ ∃ member ∈ hashed, slot.2 = member.2 := by
  induction hashed generalizing taken with
  | nil => exact .inl h
  | cons member hashed ih =>
      rcases ih h with h | ⟨other, hmem, heq⟩
      · rcases place_subset size taken member slot h with h | heq
        · exact .inl h
        · exact .inr ⟨member, .head _, heq⟩
      · exact .inr ⟨other, .tail _ hmem, heq⟩

theorem snd_mem_of_mapM {members : List Value} {hashed : List (Int × Value)}
    (h : members.mapM (fun member => (SetOrder.hash? member).map (·, member)) = some hashed)
    {member : Int × Value} (hmem : member ∈ hashed) : member.2 ∈ members := by
  induction members generalizing hashed with
  | nil =>
      cases h
      cases hmem
  | cons first members ih =>
      rw [List.mapM_cons, Option.bind_eq_bind, Option.bind_eq_some_iff] at h
      obtain ⟨own, hown, h⟩ := h
      obtain ⟨others, hothers, h⟩ := Option.bind_eq_some_iff.1 h
      cases h
      rcases List.mem_cons.1 hmem with rfl | hmem
      · obtain ⟨hash, _, rfl⟩ := Option.map_eq_some_iff.1 hown
        exact .head _
      · exact .tail _ (ih hothers hmem)

/-- A set is shown with its own members only. -/
theorem setOrder_subset (members : List Value) : setOrder members ⊆ members := by
  rw [setOrder]
  split
  · exact List.Subset.refl members
  · next hashed hhashed =>
      intro value hmem
      obtain ⟨slot, hslot, rfl⟩ := List.mem_map.1 hmem
      rcases mem_of_mem_place (List.mem_mergeSort.1 hslot) with h | ⟨member, hmember, heq⟩
      · cases h
      · rw [heq]
        exact snd_mem_of_mapM hhashed hmember

theorem writtenAtom_eq_error {value : Value} {fault : Fault}
    (h : writtenAtom value = .error fault) :
    fault = .scalar .tooManyDigits ∧ ∃ n, value = .int n ∧ IsOverlong n := by
  cases value with
  | int n =>
      rw [writtenAtom, writtenInt] at h
      split at h
      · next hlong =>
          cases h
          exact ⟨rfl, n, rfl, hlong⟩
      · cases h
  | bool value => cases value <;> cases h
  | _ => cases h

theorem sortText_eq_error {value : Value} {fault : Fault}
    (h : sortText value = .error fault) :
    fault = .scalar .tooManyDigits ∧ ∃ n, value = .int n ∧ IsOverlong n := by
  rw [sortText.eq_def] at h
  split at h
  · cases h
  · cases h
  · cases h
  · exact writtenAtom_eq_error h

theorem unwritable_of_writtenIn {collections : Array Collection} {limit : Nat}
    {outer : List CollectionId} {value : Value} {fault : Fault} (hnest : IsNest collections outer)
    (hlies : ∀ id ∈ outer.head?, LiesIn collections value id)
    (h : writtenIn collections limit outer value = .error fault) :
    Unwritable collections limit outer value fault := by
  induction limit generalizing outer value with
  | zero =>
      cases h
      exact .inl ⟨rfl, outer, rfl, hnest⟩
  | succ limit ih =>
      cases value with
      | collection id =>
          rw [writtenIn] at h
          dsimp only at h
          split at h
          · cases h
          · next held hheld =>
              split at h
              · cases h
              · next hnew =>
                replace h := map_eq_error_iff.1 h
                have hnew : id ∉ outer := fun hmem => hnew (List.contains_iff_mem.2 hmem)
                -- A collection is written by way of its members, so it comes down to one.
                have hinside : ∀ member ∈ held.members,
                    writtenIn collections limit (id :: outer) member = .error fault →
                    Unwritable collections (limit + 1) outer (.collection id) fault := by
                  intro member hmember h
                  refine .of_member hheld hmember (ih (hnest.cons hnew hlies) ?_ h)
                  rintro _ ⟨⟩
                  exact ⟨held, hheld, hmember⟩
                cases held with
                | list items =>
                    obtain ⟨item, hitem, h⟩ := exists_of_mapM_eq_error h
                    exact hinside item hitem h
                | mapping entries =>
                    obtain ⟨entry, hentry, h⟩ := exists_of_mapM_eq_error h
                    have hmember : ∀ value ∈ [entry.1, entry.2],
                        value ∈ (Collection.mapping entries).members :=
                      fun value hmem => List.mem_flatMap.2 ⟨entry, hentry, hmem⟩
                    rcases bind_eq_error_iff.1 h with h | ⟨_, _, h⟩
                    · exact hinside entry.1 (hmember _ (.head _)) h
                    · rcases bind_eq_error_iff.1 h with h | ⟨_, _, h⟩
                      · exact hinside entry.2 (hmember _ (.tail _ (.head _))) h
                      · cases h
                | set keys =>
                    obtain ⟨key, hkey, h⟩ := exists_of_mapM_eq_error h
                    exact hinside key (setOrder_subset keys hkey) h
                | pair first second =>
                    obtain ⟨part, hpart, h⟩ := exists_of_mapM_eq_error h
                    exact hinside part hpart h
      | _ =>
          rw [writtenIn.eq_def] at h
          obtain ⟨hfault, n, hn, hlong⟩ := writtenAtom_eq_error h
          exact .inr ⟨hfault, n, hlong, .inl hn⟩

end Value

theorem Data.mem_of_collection? {data : Data} {value : Value} {collection : Collection}
    (h : data.collection? value = some collection) : collection ∈ data.collections := by
  rw [Data.collection?.eq_def] at h
  split at h
  · exact Array.mem_of_getElem? h
  · cases h

end IgnoreRules.Yaml

namespace IgnoreRules.Config

open Yaml (Mentions IsOverlong NestsTooDeep)

theorem collection?_of_items? {data : Yaml.Data} {value : Yaml.Value} {items : List Yaml.Value}
    (h : items? data value = some items) : data.collection? value = some (.list items) := by
  rw [items?] at h
  split at h
  · next hlist =>
      cases h
      exact hlist
  · cases h

namespace Entries

variable {document : Entries} {fault : Yaml.Fault}

/-- All that the entries consist of lies in a collection. -/
def AreHeld (document : Entries) : Prop :=
  ∀ entry ∈ document.entries,
    Mentions document.data.collections entry.1 ∧ Mentions document.data.collections entry.2

/-- What keeps a report about the entries from being written: collections that lie too deep in
one another, or a number in one of them that is too long to be shown. -/
def Unshowable (document : Entries) (fault : Yaml.Fault) : Prop :=
  (fault = .tooDeep ∧ NestsTooDeep document.data.collections) ∨
    fault = .scalar .tooManyDigits ∧
      ∃ n, IsOverlong n ∧ Mentions document.data.collections (.int n)

theorem unshowable_of_written {value : Yaml.Value}
    (hvalue : Mentions document.data.collections value)
    (h : document.data.written value = .error fault) : document.Unshowable fault := by
  rcases Yaml.Value.unwritable_of_writtenIn (Yaml.isNest_nil _) nofun h with
    ⟨hfault, path, hlength, hpath⟩ | ⟨hfault, n, hlong, rfl | hmentions⟩
  · exact .inl ⟨hfault, path, hlength.trans (Nat.zero_add _), hpath⟩
  · exact .inr ⟨hfault, n, hlong, hvalue⟩
  · exact .inr ⟨hfault, n, hlong, hmentions⟩

theorem unshowable_of_keyFaults (hheld : document.AreHeld)
    (h : document.keyFaults = .error fault) : document.Unshowable fault := by
  rcases bind_eq_error_iff.1 h with h | ⟨unknown, _, h⟩
  · obtain ⟨key, hmem, h⟩ := exists_of_mapM_eq_error h
    obtain ⟨entry, hentry, rfl⟩ := List.mem_map.1 (List.mem_filter.1 hmem).1
    have hkey := (hheld entry hentry).1
    rcases bind_eq_error_iff.1 h with h | ⟨_, _, h⟩
    · obtain ⟨hfault, n, hn, hlong⟩ := Yaml.Value.sortText_eq_error h
      rw [hn] at hkey
      exact .inr ⟨hfault, n, hlong, hkey⟩
    · rcases bind_eq_error_iff.1 h with h | ⟨_, _, h⟩
      · exact unshowable_of_written hkey h
      · cases h
  · split at h <;> cases h

theorem mentions_of_get? (hheld : document.AreHeld) {key : String} {value : Yaml.Value}
    (h : document.get? key = some value) : Mentions document.data.collections value := by
  obtain ⟨entry, hentry, rfl⟩ := Option.map_eq_some_iff.1 h
  exact (hheld entry (List.mem_of_find?_eq_some hentry)).2

theorem unshowable_of_listFaults (hheld : document.AreHeld) {key : String} {nonEmpty : Bool}
    (h : document.listFaults key nonEmpty = .error fault) :
    document.Unshowable fault := by
  rw [listFaults] at h
  split at h
  · cases h
  · next value hvalue =>
      split at h
      · exact unshowable_of_written (mentions_of_get? hheld hvalue) (map_eq_error_iff.1 h)
      · next items hitems =>
          obtain ⟨⟨item, index⟩, hmem, h⟩ := exists_of_mapM_eq_error (map_eq_error_iff.1 h)
          replace h : document.itemFaults nonEmpty ⟨key, some index⟩ item = _ := h
          rw [itemFaults] at h
          split at h
          · cases h
          · refine unshowable_of_written ?_ (map_eq_error_iff.1 h)
            exact ⟨_, Yaml.Data.mem_of_collection? (collection?_of_items? hitems),
              List.fst_mem_of_mem_zipIdx hmem⟩

theorem unshowable_of_boolFaults (hheld : document.AreHeld) {key : String}
    (h : document.boolFaults key = .error fault) : document.Unshowable fault := by
  rw [boolFaults] at h
  split at h
  · cases h
  · next value hvalue =>
      split at h
      · cases h
      · exact unshowable_of_written (mentions_of_get? hheld hvalue) (map_eq_error_iff.1 h)

theorem unshowable_of_faults (hheld : document.AreHeld)
    (h : document.faults = .error fault) : document.Unshowable fault := by
  rcases bind_eq_error_iff.1 h with h | ⟨_, _, h⟩
  · exact unshowable_of_keyFaults hheld h
  rcases bind_eq_error_iff.1 h with h | ⟨_, _, h⟩
  · exact unshowable_of_boolFaults hheld h
  rcases bind_eq_error_iff.1 h with h | ⟨_, _, h⟩
  · exact unshowable_of_listFaults hheld h
  rcases bind_eq_error_iff.1 h with h | ⟨_, _, h⟩
  · exact unshowable_of_listFaults hheld h
  · cases h

end Entries

theorem areHeld_of_entries? {data : Yaml.Data} {document : Entries}
    (h : entries? data = some document) : document.data = data ∧ document.AreHeld := by
  rw [entries?] at h
  split at h
  · cases h
    exact ⟨rfl, List.forall_mem_nil _⟩
  · next entries hentries _ =>
      cases h
      have hcollection := Yaml.Data.mem_of_collection? hentries
      refine ⟨rfl, fun entry hmem => ⟨⟨_, hcollection, ?_⟩, ⟨_, hcollection, ?_⟩⟩⟩
      · exact List.mem_flatMap.2 ⟨entry, hmem, .head _⟩
      · exact List.mem_flatMap.2 ⟨entry, hmem, .tail _ (.head _)⟩
  · cases h

/-- What keeps a value from being refused as a configuration are collections that lie too deep
in one another, or a number in it that cannot be shown. -/
theorem unshowable_of_ofData {root : Path} {data : Yaml.Data} {fault : Yaml.Fault}
    (h : ofData root data = .error fault) :
    (fault = .tooDeep ∧ NestsTooDeep data.collections) ∨
      fault = .scalar .tooManyDigits ∧
        ∃ n, IsOverlong n ∧ Mentions data.collections (.int n) := by
  rw [ofData] at h
  split at h
  · cases h
  · next document hdocument =>
      obtain ⟨hdata, hheld⟩ := areHeld_of_entries? hdocument
      rw [← hdata]
      exact Entries.unshowable_of_faults hheld (map_eq_error_iff.1 h)

end IgnoreRules.Config
