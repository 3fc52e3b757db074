import ShardManifest.Proofs.BundleFiles
import ShardManifest.Proofs.SettingsContent

/-!
# Elements that render nothing

A setting may be an empty list. Its path is entered into the tree of settings like any other, and
so the tree is not empty, but there is nothing to be written at the end of the path. What is written
then are the elements that the path goes through, and they are hollow: neither do they render a
value, nor does anything in them. A document has no hollow element exactly if every path that some
key goes beyond is one that a key with a value goes beyond.

## Main definitions

- `Xml.Element.Filled`, `Xml.Element.NowhereHollow`: an element renders or encloses a value, and so
  does every element in it
- `SettingTree.HoldsValue`, `SettingTree.Backed`: a tree has a value, and wherever it goes on there
  is one below
- `Settings.Backed`: every path that a key goes beyond leads to a value
- `Fragment.NothingHollow`: a document has no hollow elements, and there is none without a value

## Main results

- `SettingTree.Sorted.forall_nowhereHollow_iff`: the elements of a tree are nowhere hollow exactly
  if the tree is backed
- `SettingTree.backed_ofSettings_iff`: the tree of settings is backed exactly if the settings are
- `Fragment.nothingHollow_iff`: so nothing is hollow exactly in the document of backed settings
- `Fragment.not_nothingHollow_unanswered`: an empty list alone makes a hollow document
-/

namespace ShardManifest

/-! ### Hollow elements -/

namespace Xml.Element

/-- An element that renders a value, or encloses one that does. -/
inductive Filled : Element → Prop
  | leaf (tag text : String) : Filled (.leaf tag text)
  | branch {tag : String} {children : List Element} {e : Element} (he : e ∈ children)
      (hfilled : e.Filled) : Filled (.branch tag children)

/-- The elements in an element, itself included. -/
inductive Within : Element → Element → Prop
  | itself (e : Element) : Within e e
  | inside {tag : String} {children : List Element} {inner e : Element} (he : e ∈ children)
      (hinner : Within inner e) : Within inner (.branch tag children)

/-- Every element in an element renders a value or encloses one that does. -/
def NowhereHollow (e : Element) : Prop := ∀ inner, Within inner e → inner.Filled

theorem filled_branch_iff {tag : String} {children : List Element} :
    (branch tag children).Filled ↔ ∃ e ∈ children, e.Filled := by
  constructor
  · rintro (_ | ⟨he, hfilled⟩)
    exact ⟨_, he, hfilled⟩
  · rintro ⟨e, he, hfilled⟩
    exact .branch he hfilled

theorem nowhereHollow_leaf (tag text : String) : (leaf tag text).NowhereHollow := by
  rintro inner (_ | _)
  exact .leaf tag text

theorem nowhereHollow_branch_iff {tag : String} {children : List Element} :
    (branch tag children).NowhereHollow ↔
      (∃ e ∈ children, e.Filled) ∧ ∀ e ∈ children, e.NowhereHollow := by
  constructor
  · intro h
    exact ⟨filled_branch_iff.1 (h _ (.itself _)),
      fun e he inner hinner => h inner (.inside he hinner)⟩
  · rintro ⟨hfilled, hchildren⟩ inner (_ | ⟨he, hinner⟩)
    · exact filled_branch_iff.2 hfilled
    · exact hchildren _ he inner hinner

end Xml.Element

namespace SettingTree

/-! ### Trees without gaps -/

/-- A tree has a value, at its root or below. -/
inductive HoldsValue : SettingTree → Prop
  | here {values : List String} {children : List (String × SettingTree)} (h : values ≠ []) :
      HoldsValue (node values children)
  | deeper {values : List String} {children : List (String × SettingTree)}
      {e : String × SettingTree} (he : e ∈ children) (h : e.2.HoldsValue) :
      HoldsValue (node values children)

/-- Wherever a tree goes on, there is a value below. -/
inductive Backed : SettingTree → Prop
  | node {values : List String} {children : List (String × SettingTree)}
      (hbelow : children ≠ [] → ∃ e ∈ children, e.2.HoldsValue)
      (hchildren : ∀ e ∈ children, e.2.Backed) : Backed (node values children)

theorem holdsValue_node_iff {values : List String} {children : List (String × SettingTree)} :
    (node values children).HoldsValue ↔ values ≠ [] ∨ ∃ e ∈ children, e.2.HoldsValue := by
  constructor
  · rintro (h | ⟨he, h⟩)
    · exact .inl h
    · exact .inr ⟨_, he, h⟩
  · rintro (h | ⟨e, he, h⟩)
    · exact .here h
    · exact .deeper he h

theorem backed_node_iff {values : List String} {children : List (String × SettingTree)} :
    (node values children).Backed ↔
      (children ≠ [] → ∃ e ∈ children, e.2.HoldsValue) ∧ ∀ e ∈ children, e.2.Backed := by
  constructor
  · rintro ⟨hbelow, hchildren⟩
    exact ⟨hbelow, hchildren⟩
  · rintro ⟨hbelow, hchildren⟩
    exact .node hbelow hchildren

/-! ### Sorted trees -/

/-- The segments in a tree ascend, at every level. -/
inductive Sorted : SettingTree → Prop
  | node {values : List String} {children : List (String × SettingTree)}
      (hascending : Ascending children) (hchildren : ∀ e ∈ children, e.2.Sorted) :
      Sorted (node values children)

theorem sorted_empty : empty.Sorted := .node .nil (by simp)

theorem Sorted.child {tree : SettingTree} (h : tree.Sorted) (segment : String) :
    (tree.child segment).Sorted := by
  obtain ⟨-, hchildren⟩ := h
  exact getD_lookup_of_forall sorted_empty hchildren segment

theorem Sorted.insert {tree : SettingTree} (h : tree.Sorted) (added path : List String) :
    (tree.insert added path).Sorted := by
  induction path generalizing tree with
  | nil =>
    obtain ⟨hascending, hchildren⟩ := h
    exact .node hascending hchildren
  | cons segment rest ih =>
    have hinserted := ih (h.child segment)
    obtain ⟨hascending, hchildren⟩ := h
    exact .node hascending.insertEntry (forall_mem_insertEntry hinserted hchildren)

theorem Sorted.foldl_enter {tree : SettingTree} (h : tree.Sorted)
    (entries : List (String × Setting)) : (entries.foldl enter tree).Sorted := by
  induction entries generalizing tree with
  | nil => exact h
  | cons e rest ih => exact ih (h.insert _ _)

theorem sorted_ofSettings (s : Settings) : (ofSettings s).value.Sorted := by
  rw [ofSettings, value_enterAll]
  exact sorted_empty.foldl_enter _

/-- In a sorted tree what stands below a segment is found there. -/
theorem child_fst_of_ascending {values : List String} {children : List (String × SettingTree)}
    (h : Ascending children) {e : String × SettingTree} (he : e ∈ children) :
    (SettingTree.node values children).child e.1 = e.2 := by
  have hnodup : (children.map Prod.fst).Nodup := List.pairwise_map.2 (h.imp String.ne_of_lt)
  have hfound : children.lookup e.1 = some e.2 := (lookup_eq_some_iff_mem hnodup).2 he
  rw [SettingTree.child, SettingTree.children, hfound]
  rfl

theorem child_eq_empty_or_mem (tree : SettingTree) (segment : String) :
    tree.child segment = empty ∨ ∃ e ∈ tree.children, tree.child segment = e.2 := by
  rw [child]
  cases hfound : tree.children.lookup segment with
  | none => exact .inl rfl
  | some found =>
    obtain ⟨before, after, hsplit, -⟩ := List.lookup_eq_some_iff.1 hfound
    exact .inr ⟨(segment, found), by simp [hsplit], rfl⟩

/-- A value below a tree is one of a tree that it goes on with. -/
theorem exists_mem_of_valuesAt_cons {tree : SettingTree} {segment : String} {rest : List String}
    (h : tree.valuesAt (segment :: rest) ≠ []) : ∃ e ∈ tree.children, e.2.valuesAt rest ≠ [] := by
  rw [valuesAt] at h
  rcases child_eq_empty_or_mem tree segment with hempty | ⟨e, he, hchild⟩
  · rw [hempty, valuesAt_empty] at h
    exact absurd rfl h
  · rw [hchild] at h
    exact ⟨e, he, h⟩

/-! ### The elements of a tree -/

section Elements

open Xml

variable {children : List (String × SettingTree)}

theorem exists_filled_elementsOfAll_iff
    (h : ∀ e ∈ children, ∀ tag, (∃ x ∈ elements tag e.2, x.Filled) ↔ e.2.HoldsValue) :
    (∃ x ∈ elementsOfAll children, x.Filled) ↔ ∃ e ∈ children, e.2.HoldsValue := by
  rw [elementsOfAll_eq_flatMap]
  constructor
  · rintro ⟨x, hx, hfilled⟩
    obtain ⟨e, he, hx⟩ := List.mem_flatMap.1 hx
    exact ⟨e, he, (h e he e.1).1 ⟨x, hx, hfilled⟩⟩
  · rintro ⟨e, he, hvalue⟩
    obtain ⟨x, hx, hfilled⟩ := (h e he e.1).2 hvalue
    exact ⟨x, List.mem_flatMap.2 ⟨e, he, hx⟩, hfilled⟩

theorem forall_nowhereHollow_elementsOfAll_iff
    (h : ∀ e ∈ children, ∀ tag, (∀ x ∈ elements tag e.2, x.NowhereHollow) ↔ e.2.Backed) :
    (∀ x ∈ elementsOfAll children, x.NowhereHollow) ↔ ∀ e ∈ children, e.2.Backed := by
  rw [elementsOfAll_eq_flatMap]
  constructor
  · intro hall e he
    exact (h e he e.1).1 fun x hx => hall x (List.mem_flatMap.2 ⟨e, he, hx⟩)
  · intro hall x hx
    obtain ⟨e, he, hx⟩ := List.mem_flatMap.1 hx
    exact (h e he e.1).2 (hall e he) x hx

/-- Some element of a tree is filled exactly if the tree has a value. -/
theorem Sorted.exists_filled_iff {tree : SettingTree} (h : tree.Sorted) (tag : String) :
    (∃ e ∈ elements tag tree, e.Filled) ↔ tree.HoldsValue := by
  induction h generalizing tag with
  | @node values children _ _ ih =>
    have hleaves : (∃ e ∈ values.map (Element.leaf tag), e.Filled) ↔ values ≠ [] := by
      cases values <;> simp [Element.Filled.leaf]
    rw [elements, holdsValue_node_iff, ← hleaves, ← exists_filled_elementsOfAll_iff ih]
    by_cases hnone : children = []
    · simp [hnone, elementsOfAll]
    · simp [hnone, Element.filled_branch_iff, or_and_right, exists_or]

/-- The elements of a tree are nowhere hollow exactly if the tree is backed. -/
theorem Sorted.forall_nowhereHollow_iff {tree : SettingTree} (h : tree.Sorted) (tag : String) :
    (∀ e ∈ elements tag tree, e.NowhereHollow) ↔ tree.Backed := by
  induction h generalizing tag with
  | @node values children _ hchildren ih =>
    have hleaves : ∀ e ∈ values.map (Element.leaf tag), e.NowhereHollow :=
      List.forall_mem_map.2 fun value _ => Element.nowhereHollow_leaf tag value
    rw [elements, List.forall_mem_append, backed_node_iff, and_iff_right hleaves]
    by_cases hnone : children = []
    · simp [hnone]
    · have hfilled := exists_filled_elementsOfAll_iff fun e he => (hchildren e he).exists_filled_iff
      rw [if_neg (by simpa using hnone), List.forall_mem_singleton,
        Element.nowhereHollow_branch_iff, hfilled, forall_nowhereHollow_elementsOfAll_iff ih,
        forall_prop_of_true hnone]

end Elements

/-! ### Trees by their paths -/

/-- The tree at a path; it is empty where nothing was entered. -/
def treeAt (tree : SettingTree) (path : List String) : SettingTree := path.foldl child tree

theorem treeAt_cons (tree : SettingTree) (segment : String) (rest : List String) :
    tree.treeAt (segment :: rest) = (tree.child segment).treeAt rest := rfl

theorem treeAt_empty (path : List String) : empty.treeAt path = empty := by
  induction path with
  | nil => rfl
  | cons segment rest ih => exact ih

/-- A sorted tree has a value exactly if it has one at some path. -/
theorem Sorted.holdsValue_iff {tree : SettingTree} (h : tree.Sorted) :
    tree.HoldsValue ↔ ∃ path, tree.valuesAt path ≠ [] := by
  induction h with
  | @node values children hascending _ ih =>
    rw [holdsValue_node_iff]
    constructor
    · rintro (hvalues | ⟨e, he, hvalue⟩)
      · exact ⟨[], hvalues⟩
      · obtain ⟨path, hpath⟩ := (ih e he).1 hvalue
        refine ⟨e.1 :: path, ?_⟩
        rwa [valuesAt, child_fst_of_ascending hascending he]
    · rintro ⟨path, hpath⟩
      cases path with
      | nil => exact .inl hpath
      | cons segment rest =>
        obtain ⟨e, he, hvalue⟩ := exists_mem_of_valuesAt_cons hpath
        exact .inr ⟨e, he, (ih e he).2 ⟨rest, hvalue⟩⟩

/-- A sorted tree is backed exactly if, wherever it goes on, it has a value at some longer path. -/
theorem Sorted.backed_iff {tree : SettingTree} (h : tree.Sorted) :
    tree.Backed ↔ ∀ path, (tree.treeAt path).children ≠ [] →
      ∃ segment rest, tree.valuesAt (path ++ segment :: rest) ≠ [] := by
  induction h with
  | @node values children hascending hchildren ih =>
    rw [backed_node_iff]
    constructor
    · rintro ⟨hbelow, hbacked⟩ path hne
      cases path with
      | nil =>
        obtain ⟨e, he, hvalue⟩ := hbelow hne
        obtain ⟨rest, hrest⟩ := (hchildren e he).holdsValue_iff.1 hvalue
        refine ⟨e.1, rest, ?_⟩
        rwa [List.nil_append, valuesAt, child_fst_of_ascending hascending he]
      | cons segment rest =>
        rw [treeAt_cons] at hne
        simp only [List.cons_append, valuesAt]
        rcases child_eq_empty_or_mem (.node values children) segment with hempty | ⟨e, he, hchild⟩
        · rw [hempty, treeAt_empty] at hne
          exact absurd rfl hne
        · rw [hchild] at hne ⊢
          exact (ih e he).1 (hbacked e he) rest hne
    · intro h
      constructor
      · intro hne
        obtain ⟨segment, rest, hvalues⟩ := h [] hne
        obtain ⟨e, he, hvalue⟩ := exists_mem_of_valuesAt_cons hvalues
        exact ⟨e, he, (hchildren e he).holdsValue_iff.2 ⟨rest, hvalue⟩⟩
      · intro e he
        refine (ih e he).2 fun path hne => ?_
        have hlonger := h (e.1 :: path)
        simp only [treeAt_cons, List.cons_append, valuesAt, child_fst_of_ascending hascending he] at hlonger
        exact hlonger hne

end SettingTree

/-! ### Settings without gaps -/

namespace Settings

/-- The first path is the second one with more behind it. -/
def GoesBeyond (whole path : List String) : Prop :=
  ∃ segment rest, whole = path ++ segment :: rest

/-- Every path that a valid key goes beyond is one that a valid key with a value goes beyond. -/
def Backed (s : Settings) : Prop :=
  ∀ path, (∃ e ∈ s.entries, IsValidKey e.1 ∧ GoesBeyond (pathOf e.1) path) →
    ∃ e ∈ s.entries, IsValidKey e.1 ∧ GoesBeyond (pathOf e.1) path ∧ e.2.values ≠ []

theorem goesBeyond_nil_iff {whole : List String} : GoesBeyond whole [] ↔ whole ≠ [] := by
  cases whole <;> simp [GoesBeyond]

theorem not_goesBeyond_nil (path : List String) : ¬GoesBeyond [] path := by
  simp [GoesBeyond]

theorem goesBeyond_cons_iff {first segment : String} {whole path : List String} :
    GoesBeyond (first :: whole) (segment :: path) ↔ first = segment ∧ GoesBeyond whole path := by
  simp [GoesBeyond]

theorem valuesAt_ne_nil_iff {s : Settings} {path : List String} :
    s.valuesAt path ≠ [] ↔
      ∃ e ∈ s.entries, IsValidKey e.1 ∧ pathOf e.1 = path ∧ e.2.values ≠ [] := by
  simp [valuesAt, List.flatMap_eq_nil_iff]

/-- Settings of which every valid key has a value are backed. -/
theorem backed_of_forall {s : Settings}
    (h : ∀ e ∈ s.entries, IsValidKey e.1 → e.2.values ≠ []) : s.Backed := by
  rintro path ⟨e, he, hvalid, hbeyond⟩
  exact ⟨e, he, hvalid, hbeyond, h e he hvalid⟩

end Settings

namespace SettingTree

open Settings

/-- After an insertion a tree goes on where it did and where the inserted path does. -/
theorem children_treeAt_insert_eq_nil_iff {tree : SettingTree} {added path other : List String} :
    ((tree.insert added path).treeAt other).children = [] ↔
      (tree.treeAt other).children = [] ∧ ¬GoesBeyond path other := by
  induction other generalizing tree path with
  | nil =>
    rw [goesBeyond_nil_iff, not_not]
    exact children_insert_eq_nil_iff
  | cons segment rest ih =>
    rw [treeAt_cons, treeAt_cons]
    cases path with
    | nil =>
      obtain ⟨values, children⟩ := tree
      simp only [not_goesBeyond_nil, not_false_eq_true, and_true]
      rfl
    | cons first more =>
      rw [child_insert, goesBeyond_cons_iff]
      by_cases h : segment = first
      · simp [h, ih]
      · simp [h, Ne.symm h]

theorem children_treeAt_foldl_enter_eq_nil_iff {tree : SettingTree}
    {entries : List (String × Setting)} {path : List String} :
    ((entries.foldl enter tree).treeAt path).children = [] ↔
      (tree.treeAt path).children = [] ∧ ∀ e ∈ entries, ¬GoesBeyond (pathOf e.1) path := by
  induction entries generalizing tree with
  | nil => simp
  | cons e rest ih =>
    rw [List.foldl_cons, ih, enter, children_treeAt_insert_eq_nil_iff, List.forall_mem_cons,
      and_assoc]

/-- The tree of settings goes on exactly where a valid key does. -/
theorem children_treeAt_ofSettings_ne_nil_iff {s : Settings} {path : List String} :
    ((ofSettings s).value.treeAt path).children ≠ [] ↔
      ∃ e ∈ s.entries, IsValidKey e.1 ∧ GoesBeyond (pathOf e.1) path := by
  rw [ofSettings, value_enterAll, Ne, children_treeAt_foldl_enter_eq_nil_iff, treeAt_empty]
  simp [empty, SettingTree.children]

/-- The tree of settings has a value exactly if a valid key has one. -/
theorem holdsValue_ofSettings_iff {s : Settings} :
    (ofSettings s).value.HoldsValue ↔ ∃ e ∈ s.entries, IsValidKey e.1 ∧ e.2.values ≠ [] := by
  simp only [(sorted_ofSettings s).holdsValue_iff, valuesAt_ofSettings, valuesAt_ne_nil_iff]
  constructor
  · rintro ⟨path, e, he, hvalid, -, hvalues⟩
    exact ⟨e, he, hvalid, hvalues⟩
  · rintro ⟨e, he, hvalid, hvalues⟩
    exact ⟨_, e, he, hvalid, rfl, hvalues⟩

/-- The tree of settings is backed exactly if the settings are. -/
theorem backed_ofSettings_iff {s : Settings} : (ofSettings s).value.Backed ↔ s.Backed := by
  rw [(sorted_ofSettings s).backed_iff, Settings.Backed]
  refine forall_congr' fun path => ?_
  rw [children_treeAt_ofSettings_ne_nil_iff]
  refine imp_congr_right fun _ => ?_
  simp only [valuesAt_ofSettings, valuesAt_ne_nil_iff]
  constructor
  · rintro ⟨segment, rest, e, he, hvalid, hpath, hvalues⟩
    exact ⟨e, he, hvalid, ⟨segment, rest, hpath⟩, hvalues⟩
  · rintro ⟨e, he, hvalid, ⟨segment, rest, hpath⟩, hvalues⟩
    exact ⟨segment, rest, e, he, hvalid, hpath, hvalues⟩

end SettingTree

/-! ### Documents -/

namespace Fragment

open Xml SettingTree

/-- The elements that are written below the root of a document of settings. -/
def written (section? : Option String) (s : Settings) : List Element :=
  inSection section? (elementsOfAll (ofSettings s).value.children)

/-- A document of settings has no hollow element below its root, and there is none if no valid key
has a value. -/
def NothingHollow (section? : Option String) (s : Settings) : Prop :=
  ((settings section? s).value ≠ "" → ∀ e ∈ written section? s, e.NowhereHollow) ∧
  ((∀ e ∈ s.entries, Settings.IsValidKey e.1 → e.2.values = []) → (settings section? s).value = "")

theorem settings_ne_empty_iff {section? : Option String} {s : Settings} :
    (settings section? s).value ≠ "" ↔ (ofSettings s).value.children ≠ [] := by
  rw [Ne, settings_eq_empty_iff, ← children_ofSettings_eq_nil_iff]

/-- What is written below the root is nowhere hollow exactly if the trees below the root are backed
and, inside a section, one of them has a value. -/
theorem forall_nowhereHollow_written_iff {section? : Option String} {s : Settings} :
    (∀ e ∈ written section? s, e.NowhereHollow) ↔
      (section?.isSome → ∃ e ∈ (ofSettings s).value.children, e.2.HoldsValue) ∧
        ∀ e ∈ (ofSettings s).value.children, e.2.Backed := by
  have hsorted := sorted_ofSettings s
  rw [written]
  generalize (ofSettings s).value = tree at *
  cases hsorted with
  | @node values children _ hchildren =>
    have hfilled := exists_filled_elementsOfAll_iff fun e he => (hchildren e he).exists_filled_iff
    have hnowhere := forall_nowhereHollow_elementsOfAll_iff fun e he =>
      (hchildren e he).forall_nowhereHollow_iff
    cases section? with
    | none => simpa [inSection, SettingTree.children] using hnowhere
    | some tag =>
      rw [inSection, List.forall_mem_singleton, Element.nowhereHollow_branch_iff,
        SettingTree.children, hfilled, hnowhere]
      simp

/-- Nothing is hollow exactly in the document of backed settings. -/
theorem nothingHollow_iff_backed {section? : Option String} {s : Settings} :
    NothingHollow section? s ↔ s.Backed := by
  have hvalues := values_ofSettings s
  have hholds := holdsValue_ofSettings_iff (s := s)
  rw [NothingHollow, forall_nowhereHollow_written_iff, settings_ne_empty_iff,
    ← backed_ofSettings_iff, settings_eq_empty_iff, ← children_ofSettings_eq_nil_iff]
  cases htree : (ofSettings s).value with
  | node values children =>
    rw [htree] at hvalues hholds
    obtain rfl : values = [] := hvalues
    rw [holdsValue_node_iff, or_iff_right (not_not.2 rfl)] at hholds
    have hno : (∀ e ∈ s.entries, Settings.IsValidKey e.1 → e.2.values = []) ↔
        ¬∃ e ∈ children, e.2.HoldsValue := by
      simp [hholds]
    rw [hno, backed_node_iff, SettingTree.children]
    by_cases hnone : children = []
    · simp [hnone]
    · simp only [hnone, ne_eq, not_false_eq_true, true_imp_iff, imp_false, not_not]
      tauto

end Fragment

/-! ### Files -/

namespace Bundle

/-- The files of settings, each with its section and with what it is made of. -/
def settingsFiles (c : Configuration) : List (String × Option String × Settings) :=
  [(File.users, some "users", c.users), (File.profiles, some "profiles", c.profiles),
    (File.quotas, some "quotas", c.quotas), (File.settings, none, c.settings)]

variable {installation inNamespace : String} {s : Spec} {t : Topology}

theorem mem_fragments_of_mem_settingsFiles {f : String × Option String × Settings}
    (h : f ∈ settingsFiles s.configuration) :
    (f.1, (Fragment.settings f.2.1 f.2.2).value) ∈ fragments installation inNamespace s t := by
  simp only [settingsFiles, List.mem_cons, List.not_mem_nil, or_false] at h
  rcases h with rfl | rfl | rfl | rfl <;> simp [fragments, unclustered]

/-- A fragment that is empty is not stored. -/
theorem get?_files_compose_eq_none {filename : String}
    (h : (filename, "") ∈ fragments installation inNamespace s t) :
    (compose installation inNamespace s t).value.files.get? filename = none := by
  by_contra hstored
  obtain ⟨content, hcontent⟩ := Option.ne_none_iff_exists'.1 hstored
  obtain ⟨hmem, hne⟩ := get?_files_compose_eq_some_iff.1 hcontent
  have hsame := eq_of_mem_fragments hmem h rfl
  exact hne (congrArg Prod.snd hsame)

end Bundle

namespace Fragment

open Xml SettingTree

/-- Nothing is hollow in the document of settings, and there is none without a value, exactly if
the settings are backed: every path that a valid key goes beyond is one that a valid key with a
value goes beyond. So it is if no valid key holds an empty list. Backed settings without a value are
not stored as a file. -/
theorem nothingHollow_iff (section? : Option String) (s : Settings) :
    ((settings section? s).value ≠ "" →
      (settings section? s).value = document (written section? s)) ∧
    (NothingHollow section? s ↔ s.Backed) ∧
    ((∀ e ∈ s.entries, Settings.IsValidKey e.1 → e.2 ≠ .list []) → NothingHollow section? s) ∧
    ∀ installation inNamespace spec t filename,
      (filename, section?, s) ∈ Bundle.settingsFiles spec.configuration → s.Backed →
        (∀ e ∈ s.entries, Settings.IsValidKey e.1 → e.2.values = []) →
          (Bundle.compose installation inNamespace spec t).value.files.get? filename = none := by
  refine ⟨?document, nothingHollow_iff_backed, ?lists, ?files⟩
  case document =>
    intro hne
    rw [value_settings, if_neg (by simpa using settings_ne_empty_iff.1 hne)]
    rfl
  case lists =>
    intro hlists
    refine nothingHollow_iff_backed.2 (Settings.backed_of_forall fun e he hvalid => ?_)
    exact Setting.values_ne_nil (hlists e he hvalid)
  case files =>
    intro installation inNamespace spec t filename hfile hbacked hnone
    have hempty : (settings section? s).value = "" := (nothingHollow_iff_backed.2 hbacked).2 hnone
    refine Bundle.get?_files_compose_eq_none ?_
    rw [← hempty]
    exact Bundle.mem_fragments_of_mem_settingsFiles hfile

/-- An empty list at a path on which another key has a value. -/
def accompanied : Settings := .ofList [("test/networks", .list []), ("test/profile", .text "x")]

theorem nothingHollow_iff_accompanied :
    accompanied.get? "test/networks" = some (.list []) ∧
      NothingHollow (some "users") accompanied := by
  obtain ⟨-, hbacked, -⟩ := nothingHollow_iff (some "users") accompanied
  have htree : (ofSettings accompanied).value =
      .node [] [("test", .node [] [("networks", .empty), ("profile", .node ["x"] [])])] := rfl
  refine ⟨rfl, hbacked.2 (backed_ofSettings_iff.1 ?_)⟩
  rw [htree]
  simp [backed_node_iff, holdsValue_node_iff, empty]

/-- A user from one of the listed networks, of which there are none. -/
def unanswered : Settings := .ofList [("test/networks/ip", .list [])]

/-- No key has a value, and yet there is a document, in which every element is hollow. -/
theorem not_nothingHollow_unanswered :
    (∀ e ∈ unanswered.entries, Settings.IsValidKey e.1 ∧ e.2.values = []) ∧
      (settings (some "users") unanswered).value =
        "<yandex>\n    <users>\n        <test>\n            <networks>\n            </networks>\n" ++
          "        </test>\n    </users>\n</yandex>\n" ∧
      ¬NothingHollow (some "users") unanswered := by
  have hnone : ∀ e ∈ unanswered.entries, Settings.IsValidKey e.1 ∧ e.2.values = [] := by decide
  have htext : (settings (some "users") unanswered).value =
      "<yandex>\n    <users>\n        <test>\n            <networks>\n            </networks>\n" ++
        "        </test>\n    </users>\n</yandex>\n" := by
    decide +kernel
  refine ⟨hnone, htext, fun h => ?_⟩
  have hempty := h.2 fun e he _ => (hnone e he).2
  rw [htext] at hempty
  exact absurd hempty (by decide)

end Fragment

end ShardManifest
