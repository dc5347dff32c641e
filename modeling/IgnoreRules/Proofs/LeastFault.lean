import IgnoreRules.Proofs.NamedFiles
import IgnoreRules.Proofs.ShownNumbers

/-!
# The least fault of a configuration

A document is taken as a configuration or refused as a whole, and of all that is wrong with it
only what comes first in the order of places is reported. What a document has to be is said
here without the checks: entries denote a configuration, or there are places where something
is wrong with them. The checks go through the entries key by key and collect faults. Each of
them is shown to list the places of its own key, all of them and in order, and the lists of
the keys follow each other; so the list as a whole begins with the least place.

Between a fault and its report stands the value in question, which the report shows. All
faults are written out before the least one is chosen. So a value that cannot be shown takes
the report away from all others, also where a place before its own is wrong.
-/

namespace IgnoreRules.Config

/-! ## Places -/

/-- The order of places: by keys, and each key before its items, which follow by index. -/
instance : LE Place where
  le first second :=
    first.key < second.key ∨ first.key = second.key ∧ first.index ≤ second.index

theorem Place.le_refl (place : Place) : place ≤ place := by
  refine .inr ⟨rfl, ?_⟩
  cases place.index with
  | none => exact Option.none_le
  | some index => exact Nat.le_refl index

theorem Place.le_of_key_lt {first second : String} (h : first < second) (i j : Option Nat) :
    (some ⟨first, i⟩ : Option Place) ≤ some ⟨second, j⟩ :=
  .inl h

theorem Place.le_of_index_lt {key : String} {i j : Nat} (h : i < j) :
    (some ⟨key, some i⟩ : Option Place) ≤ some ⟨key, some j⟩ :=
  .inr ⟨rfl, Nat.le_of_lt h⟩

theorem patternsKey_lt_defaultsKey : patternsKey < defaultsKey := by
  decide

theorem defaultsKey_lt_filesKey : defaultsKey < filesKey := by
  decide

theorem patternsKey_lt_filesKey : patternsKey < filesKey :=
  String.lt_trans patternsKey_lt_defaultsKey defaultsKey_lt_filesKey

/-- How reports name a place, or the mapping as a whole. -/
def location : Option Place → List Char
  | none => "<root>".toList
  | some place => place.toText

namespace ShapeFault

/-- The place of a fault, unless it belongs to the mapping as a whole. -/
def place? : ShapeFault → Option Place
  | .wrongShape place _ _ => some place
  | .emptyText place => some place
  | .unknownKeys _ => none
  | .notMapping => none

/-- The words of a fault begin with its place, but for a value that is no mapping at all. -/
theorem message_eq {fault : ShapeFault} (h : fault ≠ .notMapping) :
    ∃ detail, fault.message = location fault.place? ++ ": ".toList ++ detail := by
  rw [message.eq_def]
  split
  · exact absurd rfl h
  · have hwords : "<root>: Additional properties are not allowed (".toList =
        "<root>".toList ++ ": ".toList ++ "Additional properties are not allowed (".toList := by
      rfl
    rw [hwords, List.append_assoc, List.append_assoc (_ ++ _)]
    exact ⟨_, rfl⟩
  · rw [List.append_assoc, List.append_assoc, List.append_assoc]
    exact ⟨_, rfl⟩
  · have hwords : ": '' should be non-empty".toList =
        ": ".toList ++ "'' should be non-empty".toList := by
      rfl
    rw [hwords, ← List.append_assoc]
    exact ⟨_, rfl⟩

end ShapeFault

namespace Entries

variable {document : Entries} {key : String} {nonEmpty : Bool}

/-! ## What is asked of the entries -/

/-- The value is a text, and not the empty one where that is left out. -/
def IsText (nonEmpty : Bool) (value : Yaml.Value) : Prop :=
  ∃ text, value = .text text ∧ (nonEmpty = true → text ≠ [])

/-- The value is a list of these texts. -/
def ListsTexts (document : Entries) (nonEmpty : Bool) (value : Yaml.Value)
    (texts : List (List Char)) : Prop :=
  items? document.data value = some (texts.map .text) ∧ (nonEmpty = true → [] ∉ texts)

/-- The value under a key means a result, and a key that is left out means the default. -/
def Gives {α : Type} (document : Entries) (key : String) (means : Yaml.Value → α → Prop)
    (default result : α) : Prop :=
  match document.get? key with
  | none => result = default
  | some value => means value result

/-- The entries denote a configuration: they have no keys but the three with a meaning, and
each of these that is there has a value of its shape. -/
structure Denotes (document : Entries) (config : Config) : Prop where
  keys : ∀ entry ∈ document.entries,
    ∃ key ∈ [defaultsKey, filesKey, patternsKey], entry.1 = .text key.toList
  defaults : document.Gives defaultsKey (fun value given => value = .bool given) true
    config.includeDefaults
  files : document.Gives filesKey
    (fun value files => ∃ names, document.ListsTexts true value names ∧
      files = names.map Path.ofText)
    [defaultRuleFile] config.ruleFiles
  patterns : document.Gives patternsKey (document.ListsTexts false) [] config.extraPatterns

/-- A key without a meaning is wrong with the mapping as a whole. -/
inductive KeyWrong (document : Entries) : Option Place → Yaml.Value → Prop
  | key {entry : Yaml.Value × Yaml.Value} (hmem : entry ∈ document.entries)
      (hkey : ∀ key ∈ [defaultsKey, filesKey, patternsKey], entry.1 ≠ .text key.toList) :
      KeyWrong document none entry.1

/-- The value under a key is no truth value. -/
inductive TruthWrong (document : Entries) (key : String) : Option Place → Yaml.Value → Prop
  | value {value : Yaml.Value} (hvalue : document.get? key = some value)
      (hshape : ∀ given, value ≠ .bool given) : TruthWrong document key (some ⟨key, none⟩) value

/-- The value under a key is no list, or it has an item that is no text as it should be. -/
inductive TextsWrong (document : Entries) (key : String) (nonEmpty : Bool) :
    Option Place → Yaml.Value → Prop
  | value {value : Yaml.Value} (hvalue : document.get? key = some value)
      (hshape : items? document.data value = none) :
      TextsWrong document key nonEmpty (some ⟨key, none⟩) value
  | item {value : Yaml.Value} {items : List Yaml.Value} {item : Yaml.Value} {index : Nat}
      (hvalue : document.get? key = some value)
      (hitems : items? document.data value = some items) (hitem : items[index]? = some item)
      (hshape : ¬ IsText nonEmpty item) :
      TextsWrong document key nonEmpty (some ⟨key, some index⟩) item

/-- A place where something is wrong with the entries, and the key or value that is wrong. -/
def Wrong (document : Entries) (place : Option Place) (value : Yaml.Value) : Prop :=
  document.KeyWrong place value ∨ document.TextsWrong patternsKey false place value ∨
    document.TruthWrong defaultsKey place value ∨ document.TextsWrong filesKey true place value

/-- All that is wrong can be shown. -/
def CanShow (document : Entries) (wrong : Option Place → Yaml.Value → Prop) : Prop :=
  ∀ place value, wrong place value → ∃ shown, document.data.written value = .ok shown

theorem canShow_or {wrong wrong' : Option Place → Yaml.Value → Prop} :
    document.CanShow (fun place value => wrong place value ∨ wrong' place value) ↔
      document.CanShow wrong ∧ document.CanShow wrong' := by
  simp only [CanShow, or_imp, forall_and]

theorem TruthWrong.place_eq {place : Option Place} {value : Yaml.Value}
    (h : document.TruthWrong key place value) : ∃ index, place = some ⟨key, index⟩ := by
  cases h
  exact ⟨none, rfl⟩

theorem TextsWrong.place_eq {place : Option Place} {value : Yaml.Value}
    (h : document.TextsWrong key nonEmpty place value) : ∃ index, place = some ⟨key, index⟩ := by
  cases h with
  | value => exact ⟨none, rfl⟩
  | item => exact ⟨_, rfl⟩

section

variable {place : Option Place} {value item : Yaml.Value}

theorem not_truthWrong (hnone : document.get? key = none) :
    ¬ document.TruthWrong key place item := by
  rintro ⟨hvalue, _⟩
  rw [hnone] at hvalue
  cases hvalue

theorem truthWrong_iff (hvalue : document.get? key = some value) :
    document.TruthWrong key place item ↔
      (place = some ⟨key, none⟩ ∧ item = value) ∧ ∀ given, value ≠ .bool given := by
  constructor
  · rintro ⟨hvalue', hshape⟩
    cases hvalue.symm.trans hvalue'
    exact ⟨⟨rfl, rfl⟩, hshape⟩
  · rintro ⟨⟨rfl, rfl⟩, hshape⟩
    exact .value hvalue hshape

theorem not_textsWrong (hnone : document.get? key = none) :
    ¬ document.TextsWrong key nonEmpty place item := by
  intro h
  cases h with
  | value hvalue | item hvalue =>
      rw [hnone] at hvalue
      cases hvalue

theorem textsWrong_iff_of_shape (hvalue : document.get? key = some value)
    (hshape : items? document.data value = none) :
    document.TextsWrong key nonEmpty place item ↔ place = some ⟨key, none⟩ ∧ item = value := by
  constructor
  · intro h
    cases h with
    | value hvalue' =>
        cases hvalue.symm.trans hvalue'
        exact ⟨rfl, rfl⟩
    | item hvalue' hitems =>
        cases hvalue.symm.trans hvalue'
        rw [hshape] at hitems
        cases hitems
  · rintro ⟨rfl, rfl⟩
    exact .value hvalue hshape

theorem textsWrong_iff_of_items {items : List Yaml.Value}
    (hvalue : document.get? key = some value) (hitems : items? document.data value = some items) :
    document.TextsWrong key nonEmpty place item ↔
      ∃ index, items[index]? = some item ∧ place = some ⟨key, some index⟩ ∧
        ¬ IsText nonEmpty item := by
  constructor
  · intro h
    cases h with
    | value hvalue' hshape =>
        cases hvalue.symm.trans hvalue'
        rw [hshape] at hitems
        cases hitems
    | item hvalue' hitems' hitem hshape =>
        cases hvalue.symm.trans hvalue'
        cases hitems.symm.trans hitems'
        exact ⟨_, hitem, rfl, hshape⟩
  · rintro ⟨index, hitem, rfl, hshape⟩
    exact .item hvalue hitems hitem hshape

end

theorem isKnownKey_iff {value : Yaml.Value} :
    isKnownKey value = true ↔
      ∃ key ∈ [defaultsKey, filesKey, patternsKey], value = .text key.toList := by
  cases value with
  | text name =>
      rw [isKnownKey, List.any_eq_true]
      simp only [decide_eq_true_eq, Yaml.Value.text.injEq, @eq_comm _ name]
  | _ => simp [isKnownKey]

theorem isKnownKey_eq_false_iff {value : Yaml.Value} :
    isKnownKey value = false ↔
      ∀ key ∈ [defaultsKey, filesKey, patternsKey], value ≠ .text key.toList := by
  rw [← Bool.not_eq_true, isKnownKey_iff]
  simp only [not_exists, not_and, ne_eq]

theorem bool?_eq_some {value : Yaml.Value} {given : Bool} (h : bool? value = some given) :
    value = .bool given := by
  cases value <;> cases h
  rfl

theorem isText_text_iff {text : List Char} :
    IsText nonEmpty (.text text) ↔ (nonEmpty && text.isEmpty) = false := by
  cases nonEmpty <;> simp [IsText]

theorem not_isText_of_text?_eq_none {value : Yaml.Value} (h : text? value = none) :
    ¬ IsText nonEmpty value := by
  rintro ⟨text, rfl, _⟩
  cases h

/-! ## The checks -/

/-- The faults are those of the places where something is wrong, in the order of places. -/
structure Lists (found : List ShapeFault) (wrong : Option Place → Yaml.Value → Prop) : Prop where
  places : ∀ place, place ∈ found.map ShapeFault.place? ↔ ∃ value, wrong place value
  sorted : (found.map ShapeFault.place?).Pairwise (· ≤ ·)
  placed : .notMapping ∉ found

namespace Lists

variable {first second : List ShapeFault} {wrong wrong' : Option Place → Yaml.Value → Prop}

theorem nil (h : ∀ place value, ¬ wrong place value) : Lists [] wrong where
  places place := by simp [h place]
  sorted := .nil
  placed := List.not_mem_nil

theorem singleton {fault : ShapeFault} {value : Yaml.Value} (hfault : fault ≠ .notMapping)
    (hwrong : wrong fault.place? value) (hplace : ∀ place value, wrong place value →
      place = fault.place?) : Lists [fault] wrong where
  places place := by
    rw [List.map_singleton, List.mem_singleton]
    constructor
    · rintro rfl
      exact ⟨value, hwrong⟩
    · rintro ⟨value, h⟩
      exact hplace place value h
  sorted := List.pairwise_singleton _ _
  placed := by
    rw [List.mem_singleton]
    exact hfault.symm

theorem append (h : Lists first wrong) (h' : Lists second wrong')
    (hle : ∀ place value place' value', wrong place value → wrong' place' value' →
      place ≤ place') :
    Lists (first ++ second) fun place value => wrong place value ∨ wrong' place value where
  places place := by
    rw [List.map_append, List.mem_append, h.places, h'.places, exists_or]
  sorted := by
    rw [List.map_append, List.pairwise_append]
    refine ⟨h.sorted, h'.sorted, fun place hmem place' hmem' => ?_⟩
    obtain ⟨value, hwrong⟩ := (h.places place).1 hmem
    obtain ⟨value', hwrong'⟩ := (h'.places place').1 hmem'
    exact hle place value place' value' hwrong hwrong'
  placed := by
    rw [List.mem_append, not_or]
    exact ⟨h.placed, h'.placed⟩

theorem congr (h : Lists first wrong)
    (hiff : ∀ place value, wrong place value ↔ wrong' place value) : Lists first wrong' where
  places place := (h.places place).trans (exists_congr (hiff place))
  sorted := h.sorted
  placed := h.placed

end Lists

/-- A check lists all that is wrong, and comes to an end if all that is wrong can be shown. -/
structure Checks (document : Entries) (check : Except Yaml.Fault (List ShapeFault))
    (wrong : Option Place → Yaml.Value → Prop) : Prop where
  lists : ∀ found, check = .ok found → Lists found wrong
  ends : (∃ found, check = .ok found) ↔ document.CanShow wrong

namespace Checks

variable {check check' : Except Yaml.Fault (List ShapeFault)}
  {wrong wrong' : Option Place → Yaml.Value → Prop}

theorem nil (h : ∀ place value, ¬ wrong place value) : document.Checks (.ok []) wrong where
  lists := by
    rintro _ ⟨⟩
    exact .nil h
  ends := by
    constructor
    · exact fun _ place value hwrong => absurd hwrong (h place value)
    · exact fun _ => ⟨[], rfl⟩

theorem wrongShape {place : Place} {shape : Shape} {value : Yaml.Value}
    (h : ∀ place' value', wrong place' value' ↔ place' = some place ∧ value' = value) :
    document.Checks (document.wrongShape place shape value) wrong where
  lists found hfound := by
    obtain ⟨shown, _, rfl⟩ := map_eq_ok_iff.1 hfound
    refine .singleton ShapeFault.noConfusion ((h _ _).2 ⟨rfl, rfl⟩) fun place' value' hwrong => ?_
    exact ((h place' value').1 hwrong).1
  ends := by
    constructor
    · rintro ⟨found, hfound⟩ place' value' hwrong
      obtain ⟨shown, hshown, _⟩ := map_eq_ok_iff.1 hfound
      rw [((h place' value').1 hwrong).2]
      exact ⟨shown, hshown⟩
    · intro hshow
      obtain ⟨shown, hshown⟩ := hshow _ _ ((h _ _).2 ⟨rfl, rfl⟩)
      exact ⟨_, map_eq_ok_iff.2 ⟨shown, hshown, rfl⟩⟩

theorem congr (h : document.Checks check wrong)
    (hiff : ∀ place value, wrong place value ↔ wrong' place value) :
    document.Checks check wrong' where
  lists found hfound := (h.lists found hfound).congr hiff
  ends := by
    rw [h.ends]
    simp only [CanShow, hiff]

/-- Two checks one after the other. -/
theorem append (h : document.Checks check wrong) (h' : document.Checks check' wrong')
    (hle : ∀ place value place' value', wrong place value → wrong' place' value' →
      place ≤ place') :
    document.Checks (do return (← check) ++ (← check'))
      fun place value => wrong place value ∨ wrong' place value where
  lists found hfound := by
    obtain ⟨first, hfirst, hfound⟩ := bind_eq_ok_iff.1 hfound
    obtain ⟨second, hsecond, hfound⟩ := bind_eq_ok_iff.1 hfound
    cases hfound
    exact (h.lists first hfirst).append (h'.lists second hsecond) hle
  ends := by
    rw [canShow_or, ← h.ends, ← h'.ends]
    constructor
    · rintro ⟨found, hfound⟩
      obtain ⟨first, hfirst, hfound⟩ := bind_eq_ok_iff.1 hfound
      obtain ⟨second, hsecond, _⟩ := bind_eq_ok_iff.1 hfound
      exact ⟨⟨first, hfirst⟩, ⟨second, hsecond⟩⟩
    · rintro ⟨⟨first, hfirst⟩, ⟨second, hsecond⟩⟩
      rw [hfirst, hsecond]
      exact ⟨_, rfl⟩

end Checks

/-- A key that can be shown can be sorted. -/
theorem exists_sortText {value : Yaml.Value} {shown : List Char}
    (h : document.data.written value = .ok shown) : ∃ text, value.sortText = .ok text := by
  cases htext : value.sortText with
  | ok text => exact ⟨text, rfl⟩
  | error fault =>
      -- Only a number is sorted by what is shown of it.
      obtain ⟨_, n, rfl, hlong⟩ := Yaml.Value.sortText_eq_error htext
      rw [Yaml.IsOverlong] at hlong
      rw [Yaml.Data.written, Yaml.nestingLimit, Yaml.Value.writtenIn.eq_def] at h
      dsimp only [Yaml.Value.writtenAtom] at h
      rw [Yaml.Value.writtenInt, if_pos hlong] at h
      cases h

/-- The check of the keys filters out those without a meaning. -/
theorem keyWrong_iff {place : Option Place} {value : Yaml.Value} :
    document.KeyWrong place value ↔
      place = none ∧ value ∈ (document.entries.map (·.1)).filter (!isKnownKey ·) := by
  rw [List.mem_filter, Bool.not_eq_true', isKnownKey_eq_false_iff]
  constructor
  · rintro ⟨hmem, hkey⟩
    exact ⟨rfl, List.mem_map_of_mem hmem, hkey⟩
  · rintro ⟨rfl, hmem, hkey⟩
    obtain ⟨entry, hentry, rfl⟩ := List.mem_map.1 hmem
    exact .key hentry hkey

theorem checks_keyFaults : document.Checks document.keyFaults document.KeyWrong where
  lists found hfound := by
    obtain ⟨unknown, hunknown, hfound⟩ := bind_eq_ok_iff.1 hfound
    cases hkeys : (document.entries.map (·.1)).filter (!isKnownKey ·) with
    | nil =>
        rw [hkeys] at hunknown
        cases hunknown
        cases hfound
        refine .nil fun place value h => ?_
        have hmem := (keyWrong_iff.1 h).2
        rw [hkeys] at hmem
        cases hmem
    | cons key keys =>
        have hwrong : document.KeyWrong none key := by
          rw [keyWrong_iff, hkeys]
          exact ⟨rfl, .head keys⟩
        rw [hkeys, List.mapM_cons] at hunknown
        obtain ⟨first, _, hunknown⟩ := bind_eq_ok_iff.1 hunknown
        obtain ⟨others, _, hunknown⟩ := bind_eq_ok_iff.1 hunknown
        cases hunknown
        cases hfound
        exact .singleton ShapeFault.noConfusion hwrong fun place value h => (keyWrong_iff.1 h).1
  ends := by
    constructor
    · rintro ⟨found, hfound⟩ place value h
      obtain ⟨unknown, hunknown, _⟩ := bind_eq_ok_iff.1 hfound
      obtain ⟨_, hshown⟩ := exists_mapM_eq_ok_iff.1 ⟨unknown, hunknown⟩ value (keyWrong_iff.1 h).2
      obtain ⟨_, _, hshown⟩ := bind_eq_ok_iff.1 hshown
      obtain ⟨shown, hshown, _⟩ := bind_eq_ok_iff.1 hshown
      exact ⟨shown, hshown⟩
    · intro hshow
      have hkeys : ∀ key ∈ (document.entries.map (·.1)).filter (!isKnownKey ·), ∃ written,
          (do return (← key.sortText, ← document.data.written key)) = .ok written := by
        intro key hkey
        obtain ⟨shown, hshown⟩ := hshow none key (keyWrong_iff.2 ⟨rfl, hkey⟩)
        obtain ⟨text, htext⟩ := exists_sortText hshown
        rw [htext, hshown]
        exact ⟨(text, shown), rfl⟩
      obtain ⟨unknown, hunknown⟩ := exists_mapM_eq_ok_iff.2 hkeys
      rw [keyFaults, hunknown]
      cases unknown with
      | nil => exact ⟨[], rfl⟩
      | cons first others => exact ⟨_, rfl⟩

theorem checks_boolFaults :
    document.Checks (document.boolFaults key) (document.TruthWrong key) := by
  rw [boolFaults]
  split
  · next hnone => exact .nil fun _ _ => not_truthWrong hnone
  · next value hvalue =>
      split
      · next htruth =>
          obtain ⟨given, hgiven⟩ := Option.isSome_iff_exists.1 htruth
          refine .nil fun place item h => ?_
          exact ((truthWrong_iff hvalue).1 h).2 given (bool?_eq_some hgiven)
      · next htruth =>
          refine .wrongShape fun place item => ?_
          rw [truthWrong_iff hvalue]
          refine and_iff_left fun given hgiven => htruth ?_
          rw [hgiven]
          rfl

theorem checks_itemFaults {place : Place} {item : Yaml.Value} :
    document.Checks (document.itemFaults nonEmpty place item)
      fun place' item' => (place' = some place ∧ item' = item) ∧ ¬ IsText nonEmpty item := by
  rw [itemFaults]
  split
  · next text htext =>
      rw [text?_eq_some htext, isText_text_iff]
      split
      · next hempty =>
          refine ⟨fun found hfound => ?_, ?_⟩
          · cases hfound
            refine .singleton ShapeFault.noConfusion ⟨⟨rfl, rfl⟩, ?_⟩ fun _ _ h => h.1.1
            rw [hempty]
            exact Bool.noConfusion
          · refine ⟨fun _ place' item' h => ?_, fun _ => ⟨_, rfl⟩⟩
            rw [h.1.2]
            exact ⟨_, rfl⟩
      · next htext =>
          exact .nil fun _ _ h => h.2 (Bool.eq_false_iff.2 htext)
  · next htext =>
      refine .wrongShape fun place' value' => ?_
      rw [and_iff_left (not_isText_of_text?_eq_none htext)]

/-- The items are checked one after the other, and so their faults come by index. -/
theorem checks_items {inputs : List (Yaml.Value × Nat)}
    (hsorted : inputs.Pairwise fun first second => first.2 < second.2) :
    document.Checks
      (List.flatten <$> inputs.mapM fun (item, index) =>
        document.itemFaults nonEmpty ⟨key, some index⟩ item)
      fun place item => ∃ index, (item, index) ∈ inputs ∧ place = some ⟨key, some index⟩ ∧
        ¬ IsText nonEmpty item := by
  induction inputs with
  | nil => exact .nil fun _ _ ⟨_, hmem, _⟩ => List.not_mem_nil hmem
  | cons input inputs ih =>
      obtain ⟨hfirst, hsorted⟩ := List.pairwise_cons.1 hsorted
      rw [flatten_mapM_cons]
      refine (checks_itemFaults.append (ih hsorted) ?_).congr fun place item => ?_
      · rintro place item place' item' ⟨⟨rfl, rfl⟩, _⟩ ⟨index, hmem, rfl, _⟩
        exact Place.le_of_index_lt (hfirst _ hmem)
      · simp only [List.mem_cons]
        constructor
        · rintro (⟨⟨rfl, rfl⟩, hshape⟩ | ⟨index, hmem, hplace, hshape⟩)
          · exact ⟨input.2, .inl rfl, rfl, hshape⟩
          · exact ⟨index, .inr hmem, hplace, hshape⟩
        · rintro ⟨index, rfl | hmem, hplace, hshape⟩
          · exact .inl ⟨⟨hplace, rfl⟩, hshape⟩
          · exact .inr ⟨index, hmem, hplace, hshape⟩

theorem pairwise_zipIdx (items : List Yaml.Value) :
    items.zipIdx.Pairwise fun first second => first.2 < second.2 := by
  rw [← List.pairwise_map, List.zipIdx_map_snd]
  exact List.pairwise_lt_range' 1

theorem checks_listFaults :
    document.Checks (document.listFaults key nonEmpty) (document.TextsWrong key nonEmpty) := by
  rw [listFaults]
  split
  · next hnone => exact .nil fun _ _ => not_textsWrong hnone
  · next value hvalue =>
      split
      · next hshape => exact .wrongShape fun _ _ => textsWrong_iff_of_shape hvalue hshape
      · next items hitems =>
          refine (checks_items (pairwise_zipIdx items)).congr fun place item => ?_
          simp only [List.mk_mem_zipIdx_iff_getElem?, textsWrong_iff_of_items hvalue hitems]

/-- The checks of all keys together. -/
theorem checks_faults : document.Checks document.faults document.Wrong where
  lists found hfound := by
    obtain ⟨keys, hkeys, hfound⟩ := bind_eq_ok_iff.1 hfound
    obtain ⟨defaults, hdefaults, hfound⟩ := bind_eq_ok_iff.1 hfound
    obtain ⟨files, hfiles, hfound⟩ := bind_eq_ok_iff.1 hfound
    obtain ⟨patterns, hpatterns, hfound⟩ := bind_eq_ok_iff.1 hfound
    cases hfound
    -- The lists stand in the order of the keys, which is not the order of the checks.
    rw [List.append_assoc, List.append_assoc]
    refine (checks_keyFaults.lists keys hkeys).append ?_ ?_
    · refine (checks_listFaults.lists patterns hpatterns).append ?_ ?_
      · refine (checks_boolFaults.lists defaults hdefaults).append
          (checks_listFaults.lists files hfiles) ?_
        intro place value place' value' h h'
        obtain ⟨index, rfl⟩ := h.place_eq
        obtain ⟨index', rfl⟩ := h'.place_eq
        exact Place.le_of_key_lt defaultsKey_lt_filesKey index index'
      · intro place value place' value' h h'
        obtain ⟨index, rfl⟩ := h.place_eq
        rcases h' with h' | h'
        · obtain ⟨index', rfl⟩ := h'.place_eq
          exact Place.le_of_key_lt patternsKey_lt_defaultsKey index index'
        · obtain ⟨index', rfl⟩ := h'.place_eq
          exact Place.le_of_key_lt patternsKey_lt_filesKey index index'
    · intro place value place' value' h h'
      obtain ⟨hmem, hkey⟩ := h
      exact Option.none_le
  ends := by
    have hall : document.CanShow document.Wrong ↔ document.CanShow document.KeyWrong ∧
        document.CanShow (document.TextsWrong patternsKey false) ∧
        document.CanShow (document.TruthWrong defaultsKey) ∧
        document.CanShow (document.TextsWrong filesKey true) := by
      rw [← canShow_or, ← canShow_or, ← canShow_or]
      rfl
    rw [hall, ← checks_keyFaults.ends, ← checks_listFaults.ends, ← checks_boolFaults.ends,
      ← checks_listFaults.ends]
    constructor
    · rintro ⟨found, hfound⟩
      obtain ⟨keys, hkeys, hfound⟩ := bind_eq_ok_iff.1 hfound
      obtain ⟨defaults, hdefaults, hfound⟩ := bind_eq_ok_iff.1 hfound
      obtain ⟨files, hfiles, hfound⟩ := bind_eq_ok_iff.1 hfound
      obtain ⟨patterns, hpatterns, _⟩ := bind_eq_ok_iff.1 hfound
      exact ⟨⟨keys, hkeys⟩, ⟨patterns, hpatterns⟩, ⟨defaults, hdefaults⟩, ⟨files, hfiles⟩⟩
    · rintro ⟨⟨keys, hkeys⟩, ⟨patterns, hpatterns⟩, ⟨defaults, hdefaults⟩, ⟨files, hfiles⟩⟩
      rw [faults, hkeys, hdefaults, hfiles, hpatterns]
      exact ⟨_, rfl⟩

/-! ## What the entries denote -/

theorem forall_not_keyWrong_iff :
    (∀ place value, ¬ document.KeyWrong place value) ↔ ∀ entry ∈ document.entries,
      ∃ key ∈ [defaultsKey, filesKey, patternsKey], entry.1 = .text key.toList := by
  constructor
  · intro h entry hmem
    cases hkey : isKnownKey entry.1 with
    | true => exact isKnownKey_iff.1 hkey
    | false => exact absurd (.key hmem (isKnownKey_eq_false_iff.1 hkey)) (h none entry.1)
  · rintro h place value ⟨hmem, hkey⟩
    obtain ⟨key, hkeymem, heq⟩ := h _ hmem
    exact hkey key hkeymem heq

theorem gives_truth_iff {default result : Bool} :
    document.Gives key (fun value given => value = .bool given) default result ↔
      (∀ place value, ¬ document.TruthWrong key place value) ∧
        ((document.get? key).bind bool?).getD default = result := by
  rw [Gives]
  cases hget : document.get? key with
  | none =>
      constructor
      · rintro rfl
        exact ⟨fun _ _ => not_truthWrong hget, rfl⟩
      · exact fun h => h.2.symm
  | some value =>
      simp only [truthWrong_iff hget]
      constructor
      · rintro rfl
        exact ⟨fun _ _ h => h.2 result rfl, rfl⟩
      · rintro ⟨hright, hresult⟩
        cases htruth : bool? value with
        | none =>
            refine absurd ⟨⟨rfl, rfl⟩, fun given hgiven => ?_⟩ (hright (some ⟨key, none⟩) value)
            rw [hgiven] at htruth
            cases htruth
        | some given =>
            rw [Option.bind_some, htruth] at hresult
            cases hresult
            exact bool?_eq_some htruth

theorem filterMap_text? (texts : List (List Char)) :
    (texts.map Yaml.Value.text).filterMap text? = texts := by
  rw [List.filterMap_map]
  exact List.filterMap_some

theorem map_filterMap_text? {items : List Yaml.Value}
    (h : ∀ item ∈ items, IsText nonEmpty item) :
    (items.filterMap text?).map Yaml.Value.text = items := by
  induction items with
  | nil => rfl
  | cons item items ih =>
      obtain ⟨⟨text, rfl, _⟩, hitems⟩ := List.forall_mem_cons.1 h
      exact congrArg (_ :: ·) (ih hitems)

theorem ListsTexts.isText {value item : Yaml.Value} {texts : List (List Char)}
    (h : document.ListsTexts nonEmpty value texts) (hitem : item ∈ texts.map .text) :
    IsText nonEmpty item := by
  obtain ⟨text, hmem, rfl⟩ := List.mem_map.1 hitem
  exact ⟨text, rfl, fun hempty htext => h.2 hempty (htext ▸ hmem)⟩

/-- A list of texts as they should be lists the texts that are found in it. -/
theorem listsTexts_of_items {value : Yaml.Value} {items : List Yaml.Value}
    (hitems : items? document.data value = some items)
    (h : ∀ item ∈ items, IsText nonEmpty item) :
    document.ListsTexts nonEmpty value (items.filterMap text?) := by
  refine ⟨by rw [map_filterMap_text? h, hitems], fun hempty hmem => ?_⟩
  obtain ⟨item, hitem, htext⟩ := List.mem_filterMap.1 hmem
  obtain ⟨text, rfl, hne⟩ := h item hitem
  exact hne hempty (Option.some.inj htext)

theorem gives_texts_iff {α : Type} {f : List (List Char) → α} {default result : α} :
    document.Gives key
        (fun value result => ∃ texts, document.ListsTexts nonEmpty value texts ∧ result = f texts)
        default result ↔
      (∀ place value, ¬ document.TextsWrong key nonEmpty place value) ∧
        ((document.texts? key).map f).getD default = result := by
  rw [Gives, texts?]
  cases hget : document.get? key with
  | none =>
      constructor
      · rintro rfl
        exact ⟨fun _ _ => not_textsWrong hget, rfl⟩
      · exact fun h => h.2.symm
  | some value =>
      rw [Option.bind_some]
      constructor
      · rintro ⟨texts, hlists, rfl⟩
        refine ⟨fun place item h => ?_, ?_⟩
        · obtain ⟨index, hitem, _, hshape⟩ := (textsWrong_iff_of_items hget hlists.1).1 h
          exact hshape (hlists.isText (List.mem_of_getElem? hitem))
        · rw [hlists.1, Option.map_some, filterMap_text?]
          rfl
      · rintro ⟨hright, rfl⟩
        cases hitems : items? document.data value with
        | none =>
            exact absurd ((textsWrong_iff_of_shape hget hitems).2 ⟨rfl, rfl⟩) (hright _ value)
        | some items =>
            have htexts : ∀ item ∈ items, IsText nonEmpty item := by
              intro item hmem
              obtain ⟨index, hitem⟩ := List.getElem?_of_mem hmem
              exact Classical.not_not.1 fun hshape => hright _ item (.item hget hitems hitem hshape)
            exact ⟨_, listsTexts_of_items hitems htexts, rfl⟩

theorem gives_lines_iff {default result : List (List Char)} :
    document.Gives key (document.ListsTexts nonEmpty) default result ↔
      (∀ place value, ¬ document.TextsWrong key nonEmpty place value) ∧
        (document.texts? key).getD default = result := by
  have h := @gives_texts_iff document key nonEmpty _ id default result
  simpa only [id, exists_eq_right', Option.map_id_fun] using h

theorem forall_not_wrong_iff :
    (∀ place value, ¬ document.Wrong place value) ↔
      (∀ place value, ¬ document.KeyWrong place value) ∧
        (∀ place value, ¬ document.TextsWrong patternsKey false place value) ∧
          (∀ place value, ¬ document.TruthWrong defaultsKey place value) ∧
            ∀ place value, ¬ document.TextsWrong filesKey true place value := by
  simp only [Wrong, not_or, forall_and]

/-- Entries denote a configuration if nothing is wrong with them, and only the one that is made
of them. -/
theorem denotes_iff {config : Config} :
    document.Denotes config ↔
      (∀ place value, ¬ document.Wrong place value) ∧ document.toConfig config.root = config := by
  rw [forall_not_wrong_iff, forall_not_keyWrong_iff]
  constructor
  · rintro ⟨hkeys, hdefaults, hfiles, hpatterns⟩
    obtain ⟨hdefaults, hgiven⟩ := gives_truth_iff.1 hdefaults
    obtain ⟨hfiles, hnames⟩ := gives_texts_iff.1 hfiles
    obtain ⟨hpatterns, hlines⟩ := gives_lines_iff.1 hpatterns
    refine ⟨⟨hkeys, hpatterns, hdefaults, hfiles⟩, ?_⟩
    cases config
    rw [toConfig, Config.mk.injEq]
    exact ⟨rfl, hnames, hlines, hgiven⟩
  · rintro ⟨⟨hkeys, hpatterns, hdefaults, hfiles⟩, hconfig⟩
    refine ⟨hkeys, gives_truth_iff.2 ⟨hdefaults, ?_⟩, gives_texts_iff.2 ⟨hfiles, ?_⟩,
      gives_lines_iff.2 ⟨hpatterns, ?_⟩⟩
    · exact congrArg Config.includeDefaults hconfig
    · exact congrArg Config.ruleFiles hconfig
    · exact congrArg Config.extraPatterns hconfig

theorem faults_eq_ok_nil_iff :
    document.faults = .ok [] ↔ ∀ place value, ¬ document.Wrong place value := by
  constructor
  · intro h place value hwrong
    have hmem := ((checks_faults.lists [] h).places place).2 ⟨value, hwrong⟩
    cases hmem
  · intro h
    obtain ⟨found, hfound⟩ := checks_faults.ends.2 fun place value hwrong =>
      absurd hwrong (h place value)
    cases found with
    | nil => exact hfound
    | cons fault found =>
        obtain ⟨value, hwrong⟩ := ((checks_faults.lists _ hfound).places fault.place?).1 (.head _)
        exact absurd hwrong (h _ value)

/-- The first of the faults is that of the least place. -/
theorem least_of_faults {fault : ShapeFault} {found : List ShapeFault}
    (h : document.faults = .ok (fault :: found)) :
    (∃ value, document.Wrong fault.place? value) ∧
      (∀ place value, document.Wrong place value → fault.place? ≤ place) ∧
      ∃ detail, fault.message = location fault.place? ++ ": ".toList ++ detail := by
  obtain ⟨hplaces, hsorted, hplaced⟩ := checks_faults.lists _ h
  refine ⟨(hplaces _).1 (.head _), fun place value hwrong => ?_, ?_⟩
  · rcases List.mem_cons.1 ((hplaces place).2 ⟨value, hwrong⟩) with rfl | hmem
    · cases fault.place? with
      | none => exact Option.none_le
      | some place => exact place.le_refl
    · exact (List.pairwise_cons.1 hsorted).1 place hmem
  · refine ShapeFault.message_eq fun hfault => hplaced ?_
    rw [hfault]
    exact .head found

end Entries

variable {fs : FileSystem} {path : Path} {data : Yaml.Data}

theorem load_of_ofData_error (hdata : Holds fs path data) {fault : Yaml.Fault}
    (h : ofData (fs.absolute path).collapse.parent data = .error fault) :
    load fs path = .error (.ofYaml path fault) := by
  obtain ⟨text, htext, hdata⟩ := hdata
  rw [load, htext]
  refine bind_eq_error_iff.2 (.inr ⟨text, rfl, bind_eq_error_iff.2 (.inl ?_)⟩)
  refine mapError_eq_error_iff.2 ⟨fault, ?_, rfl⟩
  exact bind_eq_error_iff.2 (.inr ⟨data, hdata, h⟩)

theorem ofData_of_faults {document : Entries} (hdocument : entries? data = some document)
    {fault : ShapeFault} {found : List ShapeFault} (h : document.faults = .ok (fault :: found))
    (root : Path) : ofData root data = .ok (.error fault) := by
  rw [ofData, hdocument]
  exact map_eq_ok_iff.2 ⟨_, h, rfl⟩

theorem load_of_ofData_shape (hdata : Holds fs path data) {fault : ShapeFault}
    (h : ofData (fs.absolute path).collapse.parent data = .ok (.error fault)) :
    load fs path = .error (.misshapen path fault) := by
  obtain ⟨text, htext, hdata⟩ := hdata
  rw [load, htext]
  refine bind_eq_error_iff.2 (.inr ⟨text, rfl, bind_eq_error_iff.2 (.inr ⟨.error fault, ?_, rfl⟩)⟩)
  exact mapError_eq_ok_iff.2 (bind_eq_ok_iff.2 ⟨data, hdata, h⟩)

/-- A document is loaded if its entries denote a configuration, and then as that one. A document
that is no mapping is reported as such. For entries that denote none the report names the least
place where something is wrong; it is missing only if something that is wrong cannot be shown. -/
theorem load_least_fault (hdata : Holds fs path data) :
    (∀ config, load fs path = .ok config ↔
      config.root = (fs.absolute path).collapse.parent ∧
        ∃ document, entries? data = some document ∧ document.Denotes config) ∧
    (entries? data = none → ∃ fault, load fs path = .error (.misshapen path fault) ∧
      fault.message = "must be a mapping".toList) ∧
    ∀ document, entries? data = some document → (∀ config, ¬ document.Denotes config) →
      (document.CanShow document.Wrong → ∃ fault,
        load fs path = .error (.misshapen path fault) ∧
        (∃ value, document.Wrong fault.place? value) ∧
        (∀ place value, document.Wrong place value → fault.place? ≤ place) ∧
        ∃ detail, fault.message = location fault.place? ++ ": ".toList ++ detail) ∧
      (¬ document.CanShow document.Wrong →
        load fs path = .error .tooDeep ∨ load fs path = .error (.scalar .tooManyDigits)) := by
  refine ⟨fun config => ?_, fun hentries => ?_, fun document hdocument hnone => ⟨?_, ?_⟩⟩
  · rw [load_eq_ok_iff]
    constructor
    · rintro ⟨data', hdata', h⟩
      cases hdata.unique hdata'
      obtain ⟨document, hdocument, hfaults, rfl⟩ := ofData_eq_ok_ok_iff.1 h
      refine ⟨rfl, document, hdocument, Entries.denotes_iff.2 ⟨?_, rfl⟩⟩
      exact Entries.faults_eq_ok_nil_iff.1 hfaults
    · rintro ⟨hroot, document, hdocument, hdenotes⟩
      obtain ⟨hright, hconfig⟩ := Entries.denotes_iff.1 hdenotes
      rw [hroot] at hconfig
      exact ⟨data, hdata, ofData_eq_ok_ok_iff.2
        ⟨document, hdocument, Entries.faults_eq_ok_nil_iff.2 hright, hconfig⟩⟩
  · refine ⟨.notMapping, load_of_ofData_shape hdata ?_, rfl⟩
    rw [ofData, hentries]
  · intro hshow
    obtain ⟨found, hfound⟩ := Entries.checks_faults.ends.2 hshow
    cases found with
    | nil =>
        refine absurd (Entries.denotes_iff.2 ⟨?_, rfl⟩)
          (hnone (document.toConfig (fs.absolute path).collapse.parent))
        exact Entries.faults_eq_ok_nil_iff.1 hfound
    | cons fault found =>
        obtain ⟨hwrong, hleast, hmessage⟩ := Entries.least_of_faults hfound
        have hload := load_of_ofData_shape hdata (ofData_of_faults hdocument hfound _)
        exact ⟨fault, hload, hwrong, hleast, hmessage⟩
  · intro hshow
    cases hfaults : document.faults with
    | ok found => exact absurd (Entries.checks_faults.ends.1 ⟨found, hfaults⟩) hshow
    | error fault =>
        have herror : ofData (fs.absolute path).collapse.parent data = .error fault := by
          rw [ofData, hdocument]
          exact map_eq_error_iff.2 hfaults
        have hload := load_of_ofData_error hdata herror
        rcases unshowable_of_ofData herror with ⟨rfl, _⟩ | ⟨rfl, _⟩
        · exact .inl hload
        · exact .inr hload

/-- The text of a document with every key in its shape. -/
def soundText : String :=
  "include_defaults: no\nrule_files: [.ignore]\nextra_patterns: ['*.tmp']\n"

/-- The text of a document with a fault under every key. -/
def faultyText : String :=
  "rule_files: ['', 1]\nextra_patterns: [a, 2, null]\ninclude_defaults: 1\n"

/-- The two documents as files. -/
def shapeFiles : FileSystem :=
  .below [(["sound"], soundText.toUTF8.data.toList), (["faulty"], faultyText.toUTF8.data.toList)]

/-- The entries of the document in a file. -/
def entriesIn? (fs : FileSystem) (path : Path) : Option Entries :=
  (readText fs path).toOption.bind fun text => (Yaml.Data.ofText text).toOption.bind entries?

theorem holds_of_entriesIn? {document : Entries} (h : entriesIn? fs path = some document) :
    ∃ data, Holds fs path data ∧ entries? data = some document := by
  obtain ⟨text, htext, h⟩ := Option.bind_eq_some_iff.1 h
  obtain ⟨data, hdata, h⟩ := Option.bind_eq_some_iff.1 h
  exact ⟨data, ⟨text, eq_ok_of_toOption htext, eq_ok_of_toOption hdata⟩, h⟩

theorem load_least_fault_shapes :
    (∃ data document, Holds shapeFiles (.ofText "sound".toList) data ∧
      entries? data = some document ∧
      document.Denotes
        ⟨.ofText "/work".toList, [.ofText ".ignore".toList], ["*.tmp".toList], false⟩) ∧
    ∃ data document, Holds shapeFiles (.ofText "faulty".toList) data ∧
      entries? data = some document ∧
      (∀ place value, document.Wrong place value → some ⟨patternsKey, some 1⟩ ≤ place) ∧
      ∃ fault, load shapeFiles (.ofText "faulty".toList) =
          .error (.misshapen (.ofText "faulty".toList) fault) ∧
        fault.message = "extra_patterns.1: 2 is not of type 'string'".toList := by
  constructor
  · have hload := eq_ok_of_toOption (by decide +kernel :
      (load shapeFiles (.ofText "sound".toList)).toOption =
        some ⟨.ofText "/work".toList, [.ofText ".ignore".toList], ["*.tmp".toList], false⟩)
    obtain ⟨data, hdata, _⟩ := load_eq_ok_iff.1 hload
    obtain ⟨_, document, hdocument, hdenotes⟩ := ((load_least_fault hdata).1 _).1 hload
    exact ⟨data, document, hdata, hdocument, hdenotes⟩
  · have hfaults : (entriesIn? shapeFiles (.ofText "faulty".toList)).bind (·.faults.toOption) =
        some [.wrongShape ⟨patternsKey, some 1⟩ "2".toList .string,
          .wrongShape ⟨patternsKey, some 2⟩ "None".toList .string,
          .wrongShape ⟨defaultsKey, none⟩ "1".toList .boolean,
          .emptyText ⟨filesKey, some 0⟩,
          .wrongShape ⟨filesKey, some 1⟩ "1".toList .string] := by
      decide +kernel
    obtain ⟨document, hentries, hfaults⟩ := Option.bind_eq_some_iff.1 hfaults
    replace hfaults := eq_ok_of_toOption hfaults
    obtain ⟨data, hdata, hdocument⟩ := holds_of_entriesIn? hentries
    have hnone : ∀ config, ¬ document.Denotes config := by
      intro config hdenotes
      obtain ⟨⟨value, hwrong⟩, _⟩ := Entries.least_of_faults hfaults
      exact (Entries.denotes_iff.1 hdenotes).1 _ value hwrong
    obtain ⟨fault, hload, _, hleast, _⟩ := ((load_least_fault hdata).2.2 document hdocument hnone).1
      (Entries.checks_faults.ends.1 ⟨_, hfaults⟩)
    cases hload.symm.trans (load_of_ofData_shape hdata (ofData_of_faults hdocument hfaults _))
    exact ⟨data, document, hdata, hdocument, hleast, _, hload, rfl⟩

end IgnoreRules.Config
