import ShardManifest.Proofs.ByteOrder
import ShardManifest.Proofs.ClusterDefinition

/-!
# What a document of settings holds

Settings are keyed by paths, and their document nests one element for each segment. Different keys
may come to the same segments, and one path may go on where another ends, so a document is put
together from several settings at every level. It loses nothing of them and adds nothing: at each
path it holds the values of the keys that come to that path, in the order of the keys. A key whose
path cannot be written leaves no trace.

## Main definitions

- `Xml.Element.textsAt`: the texts at a path of a tree of elements
- `Settings.pathOf`, `Settings.IsValidKey`: the path that a key comes to, and which keys count
- `Settings.valuesAt`: what settings say about a path
- `SettingTree.valuesAt`: the values at a path of a tree of settings
- `SettingTree.Settled`: no tree below a segment is bare

## Main results

- `SettingTree.valuesAt_insert`: an insertion adds at its own path and leaves the others alone
- `SettingTree.valuesAt_ofSettings`: a tree has at a path what the settings say about it
- `SettingTree.Settled.flatMap_textsAt_elements`: the elements of a tree hold what the tree has
- `Fragment.textsAt_settings`: the document of settings holds what the settings say
-/

namespace ShardManifest

/-! ### Paths and keys -/

/-- The texts of the leaves at a path below an element, in the order of the document. -/
def Xml.Element.textsAt : List String → Element → List String
  | [], leaf _ text => [text]
  | [], branch _ _ => []
  | tag :: rest, e => (e.childrenWithTag tag).flatMap (textsAt rest)

/-- Inside an element that holds one other, paths go on below that or nowhere. -/
theorem Xml.Element.textsAt_singleton (tag first : String) (e : Element) (rest : List String) :
    (branch tag [e]).textsAt (first :: rest) = if e.tag = first then e.textsAt rest else [] := by
  rw [textsAt, childrenWithTag, children]
  by_cases h : e.tag = first <;> simp [h]

namespace Settings

theorem pieces_eq_splitOn (cs : List Char) : pieces cs = cs.splitOn '/' := by
  induction cs with
  | nil => rfl
  | cons c rest ih =>
    rw [pieces, List.splitOn_cons_eq_if_modifyHead, ih]
    cases h : rest.splitOn '/' with
    | nil => exact absurd h (List.splitOnP_ne_nil _ _)
    | cons piece more => simp

/-- The path that a key comes to: what is between its slashes, without the empty pieces. -/
def pathOf (key : String) : List String :=
  ((key.toList.splitOn '/').filter fun piece => piece ≠ []).map .ofList

theorem segments_eq_pathOf : segments = pathOf := by
  funext key
  rw [segments, pathOf, pieces_eq_splitOn]
  congr 2
  funext piece
  cases piece <;> rfl

example : ["a/b", "/a//b", "a/b/"].map pathOf = [["a", "b"], ["a", "b"], ["a", "b"]] := by decide

/-- A key comes to a path of at least one segment, and all its segments are element names. -/
def IsValidKey (key : String) : Prop :=
  pathOf key ≠ [] ∧ ∀ segment ∈ pathOf key, Xml.isElementName segment = true

instance : DecidablePred IsValidKey := fun _ => inferInstanceAs (Decidable (_ ∧ _))

/-- What settings say about a path: the values of the valid keys that come to it, in their order. -/
def valuesAt (s : Settings) (path : List String) : List String :=
  (s.entries.filter fun e => IsValidKey e.1 ∧ pathOf e.1 = path).flatMap fun e => e.2.values

theorem valuesAt_nil (s : Settings) : s.valuesAt [] = [] := by
  rw [valuesAt, List.flatMap_eq_nil_iff]
  intro e he
  obtain ⟨hvalid, hnone⟩ := of_decide_eq_true (List.mem_filter.1 he).2
  exact absurd hnone hvalid.1

end Settings

/-- Only an empty list has no values. -/
theorem Setting.values_ne_nil {s : Setting} (h : s ≠ .list []) : s.values ≠ [] := by
  cases s with
  | list items => exact fun hnone => h (congrArg list hnone)
  | _ => exact List.cons_ne_nil _ _

theorem insertEntry_ne_nil {α : Type} (key : String) (value : α) (entries : List (String × α)) :
    insertEntry key value entries ≠ [] := by
  cases entries with
  | nil => exact List.cons_ne_nil _ _
  | cons e entries =>
    rw [insertEntry]
    split
    · exact List.cons_ne_nil _ _
    · split <;> exact List.cons_ne_nil _ _

namespace SettingTree

def values : SettingTree → List String
  | node values _ => values

/-- The tree below a segment; it is empty where nothing was entered. -/
def child (tree : SettingTree) (segment : String) : SettingTree :=
  (tree.children.lookup segment).getD empty

/-- The values at a path. -/
def valuesAt : List String → SettingTree → List String
  | [], tree => tree.values
  | segment :: rest, tree => valuesAt rest (tree.child segment)

/-! ### Insertions -/

theorem child_insert (tree : SettingTree) (added : List String) (segment other : String)
    (rest : List String) :
    (tree.insert added (segment :: rest)).child other =
      if other = segment then (tree.child segment).insert added rest else tree.child other := by
  obtain ⟨values, children⟩ := tree
  rw [insert, child, SettingTree.children, Dictionary.lookup_insertEntry]
  split <;> rfl

theorem valuesAt_empty (path : List String) : empty.valuesAt path = [] := by
  induction path with
  | nil => rfl
  | cons segment rest ih =>
    rw [valuesAt]
    exact ih

/-- An insertion adds values at its own path, behind those that are there, and leaves the values at
every other path alone. -/
theorem valuesAt_insert (tree : SettingTree) (added path other : List String) :
    (tree.insert added path).valuesAt other =
      tree.valuesAt other ++ if path = other then added else [] := by
  induction path generalizing tree other with
  | nil =>
    obtain ⟨values, children⟩ := tree
    cases other with
    | nil => rfl
    | cons => simp [insert, valuesAt, child, SettingTree.children]
  | cons segment rest ih =>
    cases other with
    | nil =>
      obtain ⟨values, children⟩ := tree
      simp [insert, valuesAt, SettingTree.values]
    | cons segment' rest' =>
      rw [valuesAt, valuesAt, child_insert]
      by_cases h : segment' = segment
      · simp [h, ih]
      · simp [h, Ne.symm h]

theorem children_insert_eq_nil_iff {tree : SettingTree} {added path : List String} :
    (tree.insert added path).children = [] ↔ tree.children = [] ∧ path = [] := by
  obtain ⟨values, children⟩ := tree
  cases path with
  | nil => simp [insert, SettingTree.children]
  | cons segment rest => simp [insert, SettingTree.children, insertEntry_ne_nil]

/-! ### The tree of a row of entries -/

/-- Enters the values of a setting at the segments of its path. -/
def enter (tree : SettingTree) (e : String × Setting) : SettingTree :=
  tree.insert e.2.values (Settings.pathOf e.1)

/-- Of a row of entries those with a valid key are entered, one after the other. -/
theorem value_enterAll (tree : SettingTree) (entries : List (String × Setting)) :
    (tree.enterAll entries).value =
      (entries.filter fun e => Settings.IsValidKey e.1).foldl enter tree := by
  induction entries generalizing tree with
  | nil => rfl
  | cons e rest ih =>
    obtain ⟨path, setting⟩ := e
    rw [enterAll, Settings.segments_eq_pathOf]
    split
    next hnone =>
      have hinvalid : ¬Settings.IsValidKey path := fun h => h.1 (List.isEmpty_iff.1 hnone)
      rw [List.filter_cons_of_neg (by simpa using hinvalid), ← ih]
      rfl
    next hsome =>
      split
      next bad hbad =>
        have hinvalid : ¬Settings.IsValidKey path := fun h => by
          have hname := h.2 bad (List.mem_of_find?_eq_some hbad)
          have hnot := List.find?_some hbad
          simp [hname] at hnot
        rw [List.filter_cons_of_neg (by simpa using hinvalid), ← ih]
        rfl
      next hnames =>
        have hvalid : Settings.IsValidKey path :=
          ⟨fun h => hsome (List.isEmpty_iff.2 h), by simpa using hnames⟩
        rw [List.filter_cons_of_pos (by simpa using hvalid), List.foldl_cons, ih]
        rfl

theorem valuesAt_foldl_enter (tree : SettingTree) (entries : List (String × Setting))
    (path : List String) :
    (entries.foldl enter tree).valuesAt path = tree.valuesAt path ++
      (entries.filter fun e => Settings.pathOf e.1 = path).flatMap fun e => e.2.values := by
  induction entries generalizing tree with
  | nil => simp
  | cons e rest ih =>
    rw [List.foldl_cons, ih, enter, valuesAt_insert]
    by_cases h : Settings.pathOf e.1 = path <;> simp [h]

/-- The tree of settings has at a path what the settings say about it. -/
theorem valuesAt_ofSettings (s : Settings) (path : List String) :
    (ofSettings s).value.valuesAt path = s.valuesAt path := by
  rw [ofSettings, value_enterAll, valuesAt_foldl_enter, valuesAt_empty, List.nil_append,
    List.filter_filter, Settings.valuesAt]
  simp only [Bool.decide_and, Bool.and_comm]

/-- No key comes to the root. -/
theorem values_ofSettings (s : Settings) : (ofSettings s).value.values = [] :=
  (valuesAt_ofSettings s []).trans s.valuesAt_nil

theorem children_foldl_enter_eq_nil_iff {tree : SettingTree} {entries : List (String × Setting)} :
    (entries.foldl enter tree).children = [] ↔
      tree.children = [] ∧ ∀ e ∈ entries, Settings.pathOf e.1 = [] := by
  induction entries generalizing tree with
  | nil => simp
  | cons e rest ih =>
    rw [List.foldl_cons, ih, enter, children_insert_eq_nil_iff, List.forall_mem_cons, and_assoc]

/-- Nothing is below the root exactly if no key is valid. -/
theorem children_ofSettings_eq_nil_iff {s : Settings} :
    (ofSettings s).value.children = [] ↔ ∀ key ∈ s.keys, ¬Settings.IsValidKey key := by
  rw [ofSettings, value_enterAll, children_foldl_enter_eq_nil_iff]
  simp only [List.mem_filter, decide_eq_true_iff, Dictionary.keys, List.forall_mem_map]
  constructor
  · rintro ⟨-, h⟩ e he hvalid
    exact hvalid.1 (h e ⟨he, hvalid⟩)
  · intro h
    exact ⟨rfl, fun e he => absurd he.2 (h e he.1)⟩

/-! ### Settled trees -/

/-- Nothing is in a tree. -/
def IsBare (tree : SettingTree) : Prop := tree.values = [] ∧ tree.children = []

/-- The segments in a tree ascend, and no tree below a segment is bare. -/
inductive Settled : SettingTree → Prop
  | node {values : List String} {children : List (String × SettingTree)}
      (hascending : Ascending children) (hbare : ∀ e ∈ children, ¬e.2.IsBare)
      (hchildren : ∀ e ∈ children, e.2.Settled) : Settled (node values children)

theorem settled_empty : empty.Settled := .node .nil (by simp) (by simp)

theorem not_isBare_insert {added : List String} (h : added ≠ []) (tree : SettingTree)
    (path : List String) : ¬(tree.insert added path).IsBare := by
  rintro ⟨hvalues, hchildren⟩
  obtain ⟨-, rfl⟩ := children_insert_eq_nil_iff.1 hchildren
  obtain ⟨values, children⟩ := tree
  exact h (List.append_eq_nil_iff.1 hvalues).2

theorem Settled.child {tree : SettingTree} (h : tree.Settled) (segment : String) :
    (tree.child segment).Settled := by
  obtain ⟨-, -, hchildren⟩ := h
  exact getD_lookup_of_forall settled_empty hchildren segment

theorem Settled.insert {tree : SettingTree} (h : tree.Settled) {added : List String}
    (hadded : added ≠ []) (path : List String) : (tree.insert added path).Settled := by
  induction path generalizing tree with
  | nil =>
    obtain ⟨hascending, hbare, hchildren⟩ := h
    exact .node hascending hbare hchildren
  | cons segment rest ih =>
    have hinserted := ih (h.child segment)
    have hnew := not_isBare_insert hadded (tree.child segment) rest
    obtain ⟨hascending, hbare, hchildren⟩ := h
    exact .node hascending.insertEntry (forall_mem_insertEntry hnew hbare)
      (forall_mem_insertEntry hinserted hchildren)

theorem Settled.foldl_enter {tree : SettingTree} (h : tree.Settled)
    {entries : List (String × Setting)} (hentries : ∀ e ∈ entries, e.2.values ≠ []) :
    (entries.foldl enter tree).Settled := by
  induction entries generalizing tree with
  | nil => exact h
  | cons e rest ih =>
    obtain ⟨he, hrest⟩ := List.forall_mem_cons.1 hentries
    exact ih (h.insert he _) hrest

/-- The tree of settings is settled unless a valid key holds an empty list. -/
theorem settled_ofSettings {s : Settings}
    (h : ∀ e ∈ s.entries, Settings.IsValidKey e.1 → e.2 ≠ .list []) :
    (ofSettings s).value.Settled := by
  rw [ofSettings, value_enterAll]
  refine settled_empty.foldl_enter fun e he => ?_
  obtain ⟨hmem, hvalid⟩ := List.mem_filter.1 he
  exact Setting.values_ne_nil (h e hmem (of_decide_eq_true hvalid))

/-! ### The elements of a settled tree -/

theorem tag_of_mem_elements {tree : SettingTree} {tag : String} {e : Xml.Element}
    (h : e ∈ elements tag tree) : e.tag = tag := by
  obtain ⟨values, children⟩ := tree
  rw [elements, List.mem_append] at h
  rcases h with hvalue | hbranch
  · obtain ⟨value, -, rfl⟩ := List.mem_map.1 hvalue
    rfl
  · split at hbranch
    next => cases hbranch
    next =>
      rw [List.mem_singleton.1 hbranch]
      rfl

theorem elements_ne_nil {tree : SettingTree} (h : ¬tree.IsBare) (tag : String) :
    elements tag tree ≠ [] := by
  obtain ⟨values, children⟩ := tree
  simp only [IsBare, SettingTree.values, SettingTree.children] at h
  by_cases hchildren : children = [] <;> simp_all [elements]

theorem elementsOfAll_ne_nil {children : List (String × SettingTree)} (hne : children ≠ [])
    (hbare : ∀ e ∈ children, ¬e.2.IsBare) : elementsOfAll children ≠ [] := by
  obtain ⟨e, rest, rfl⟩ := List.exists_cons_of_ne_nil hne
  have hfirst := elements_ne_nil (hbare e List.mem_cons_self) e.1
  rw [elementsOfAll]
  exact List.append_ne_nil_of_left_ne_nil hfirst _

/-- The elements with a tag, in a row of trees, are those of the tree below that segment. -/
theorem filter_elementsOfAll {children : List (String × SettingTree)} (h : Ascending children)
    (tag : String) :
    (elementsOfAll children).filter (fun e => e.tag = tag) =
      elements tag ((children.lookup tag).getD empty) := by
  induction children with
  | nil => rfl
  | cons e rest ih =>
    obtain ⟨segment, tree⟩ := e
    obtain ⟨hfirst, hrest⟩ := List.pairwise_cons.1 h
    rw [elementsOfAll, List.filter_append, ih hrest]
    by_cases htag : tag = segment
    · -- no later tree stands below the segment
      subst htag
      have hlater : rest.lookup tag = none := by
        refine List.lookup_eq_none_iff.2 fun e he => ?_
        simpa using String.ne_of_lt (hfirst e he)
      have hall : (elements tag tree).filter (fun e => e.tag = tag) = elements tag tree :=
        List.filter_eq_self.2 fun e he => by simpa using tag_of_mem_elements he
      rw [hall, hlater]
      simp [elements, empty]
    · have hnone : (elements segment tree).filter (fun e => e.tag = tag) = [] :=
        List.filter_eq_nil_iff.2 fun e he => by
          simpa [tag_of_mem_elements he] using Ne.symm htag
      rw [hnone, Dictionary.lookup_cons_of_ne htag, List.nil_append]

/-- The elements of a settled tree hold at a path what the tree has there. -/
theorem Settled.flatMap_textsAt_elements {tree : SettingTree} (h : tree.Settled) (tag : String)
    (path : List String) :
    (elements tag tree).flatMap (Xml.Element.textsAt path) = tree.valuesAt path := by
  induction path generalizing tree tag with
  | nil =>
    obtain ⟨values, children⟩ := tree
    have hvalues : (values.map (Xml.Element.leaf tag)).flatMap (Xml.Element.textsAt []) =
        values := by
      simp [List.flatMap_map, Xml.Element.textsAt]
    rw [elements, List.flatMap_append, hvalues]
    split <;> simp [Xml.Element.textsAt, valuesAt, SettingTree.values]
  | cons segment rest ih =>
    have hchild := ih (h.child segment) segment
    cases h with
    | @node values children hascending _ _ =>
      -- the leaves hold no elements, so only the branch counts
      have hleaves : (values.map (Xml.Element.leaf tag)).flatMap
          (Xml.Element.textsAt (segment :: rest)) = [] := by
        simp [List.flatMap_map, Xml.Element.textsAt, Xml.Element.childrenWithTag,
          Xml.Element.children]
      rw [elements, List.flatMap_append, hleaves, List.nil_append, valuesAt, ← hchild,
        SettingTree.child, SettingTree.children, ← filter_elementsOfAll hascending]
      split
      next hnone =>
        rw [List.isEmpty_iff.1 hnone]
        rfl
      next =>
        rw [List.flatMap_singleton]
        rfl

/-- The elements of a settled tree are read as they are written. -/
theorem Settled.asRead_eq {tree : SettingTree} (h : tree.Settled) {tag : String} {e : Xml.Element}
    (he : e ∈ elements tag tree) (depth : Nat) : e.asRead depth = e := by
  induction h generalizing tag e depth with
  | @node values children _ hbare _ ih =>
    rw [elements, List.mem_append] at he
    rcases he with hvalue | hbranch
    · obtain ⟨value, -, rfl⟩ := List.mem_map.1 hvalue
      rfl
    · split at hbranch
      next => cases hbranch
      next hsome =>
        have hne : elementsOfAll children ≠ [] :=
          elementsOfAll_ne_nil (fun hnone => hsome (List.isEmpty_iff.2 hnone)) hbare
        rw [List.mem_singleton.1 hbranch]
        refine Xml.Element.asRead_branch hne (fun inner hinner depth => ?_) depth
        rw [elementsOfAll_eq_flatMap, List.mem_flatMap] at hinner
        obtain ⟨below, hmem, hinner⟩ := hinner
        exact ih below hmem hinner depth

/-- The tree of settings is written as one branch: the root itself has no values. -/
theorem elements_ofSettings {s : Settings} (h : (ofSettings s).value.children ≠ [])
    (tag : String) :
    elements tag (ofSettings s).value =
      [.branch tag (elementsOfAll (ofSettings s).value.children)] := by
  have hvalues := values_ofSettings s
  generalize (ofSettings s).value = tree at *
  obtain ⟨values, children⟩ := tree
  obtain rfl : values = [] := hvalues
  rw [elements, if_neg (by simpa [SettingTree.children] using h)]
  rfl

end SettingTree

/-! ### Documents -/

namespace Fragment

open Xml SettingTree

/-- The elements of a document of settings, inside a section if one is given. -/
def inSection (section? : Option String) (elements : List Element) : List Element :=
  match section? with
  | some tag => [.branch tag elements]
  | none => elements

theorem value_settings (section? : Option String) (s : Settings) :
    (settings section? s).value =
      if (ofSettings s).value.children.isEmpty then ""
      else document (inSection section? (elementsOfAll (ofSettings s).value.children)) := by
  rw [settings, Logged.value_bind]
  split <;> rfl

theorem settings_eq_empty_iff {section? : Option String} {s : Settings} :
    (settings section? s).value = "" ↔ ∀ key ∈ s.keys, ¬Settings.IsValidKey key := by
  rw [value_settings, ← children_ofSettings_eq_nil_iff]
  split
  next h => exact iff_of_true rfl (List.isEmpty_iff.1 h)
  next h =>
    exact iff_of_false (document_ne_empty _) fun hnone => h (List.isEmpty_iff.2 hnone)

/-- A key whose path is not valid leaves no trace. -/
theorem settings_erase {key : String} (h : ¬Settings.IsValidKey key) (section? : Option String)
    (s : Settings) : (settings section? (s.erase key)).value = (settings section? s).value := by
  have htree : (ofSettings (s.erase key)).value = (ofSettings s).value := by
    rw [ofSettings, ofSettings, SettingTree.value_enterAll, SettingTree.value_enterAll,
      Dictionary.erase, List.filter_filter]
    congr 1
    refine List.filter_congr fun e _ => ?_
    by_cases hkey : e.1 = key
    · simp [hkey, h]
    · simp [hkey]
  rw [value_settings, value_settings, htree]

/-- The document of settings whose tree is settled, as it is read. -/
theorem read?_settings {section? : Option String} {s : Settings}
    (hsection : ∀ tag ∈ section?, isElementName tag = true)
    (hsettled : (ofSettings s).value.Settled) (hne : (ofSettings s).value.children ≠ []) :
    read? (settings section? s).value = some (.branch "yandex"
      (inSection section? (elementsOfAll (ofSettings s).value.children))) := by
  have hread : ∀ tag depth, (Element.branch tag
      (elementsOfAll (ofSettings s).value.children)).asRead depth =
        .branch tag (elementsOfAll (ofSettings s).value.children) := fun tag depth =>
    hsettled.asRead_eq (by rw [elements_ofSettings hne]; exact List.mem_singleton_self _) depth
  have hnamed := named_elementsOfAll_ofSettings s
  rw [value_settings, if_neg (by simpa using hne), read?_eq_some_iff]
  cases section? with
  | none =>
    have hspells := spells_document hnamed
    rwa [hread] at hspells
  | some tag =>
    have hspells := spells_document
      (List.forall_mem_singleton.2 (Element.Named.branch (hsection tag rfl) hnamed))
    rwa [Element.asRead_branch (List.cons_ne_nil _ _)
      (List.forall_mem_singleton.2 (hread tag))] at hspells

/-- The document of settings loses nothing of them and adds nothing. It is empty exactly if no key
is valid. Else it is an element that holds at each path, inside the section, the values of the valid
keys that come to that path, in the order of the keys, and nothing outside of the section. A key
that is not valid leaves no trace. -/
theorem textsAt_settings {section? : Option String} {s : Settings}
    (hsection : ∀ tag ∈ section?, isElementName tag = true)
    (hlists : ∀ e ∈ s.entries, Settings.IsValidKey e.1 → e.2 ≠ .list []) :
    s.keys.Pairwise BytewiseLT ∧
    ((settings section? s).value = "" ↔ ∀ key ∈ s.keys, ¬Settings.IsValidKey key) ∧
    ((settings section? s).value ≠ "" → ∃ root, read? (settings section? s).value = some root ∧
      root.tag = "yandex" ∧
      (∀ path, root.textsAt (section?.toList ++ path) = s.valuesAt path) ∧
      ∀ path, ¬section?.toList <+: path → root.textsAt path = []) ∧
    ∀ key, ¬Settings.IsValidKey key →
      (settings section? (s.erase key)).value = (settings section? s).value := by
  refine ⟨?order, settings_eq_empty_iff, ?texts, fun key h => settings_erase h section? s⟩
  case order => exact s.keys_pairwise.imp bytewiseLT_iff.2
  case texts =>
    intro hsome
    have hne : (ofSettings s).value.children ≠ [] := fun hnone =>
      hsome (settings_eq_empty_iff.2 (children_ofSettings_eq_nil_iff.1 hnone))
    have hsettled := settled_ofSettings hlists
    have htexts : ∀ tag path, (Element.branch tag
        (elementsOfAll (ofSettings s).value.children)).textsAt path = s.valuesAt path := by
      intro tag path
      rw [← valuesAt_ofSettings, ← hsettled.flatMap_textsAt_elements tag,
        elements_ofSettings hne, List.flatMap_singleton]
    refine ⟨_, read?_settings hsection hsettled hne, rfl, ?inside, ?outside⟩
    case inside =>
      intro path
      cases section? with
      | none => exact htexts _ path
      | some tag =>
        rw [← htexts tag]
        exact (Element.textsAt_singleton _ tag _ path).trans (if_pos rfl)
    case outside =>
      intro path hpath
      cases section? with
      | none => exact absurd List.nil_prefix hpath
      | some tag =>
        cases path with
        | nil => rfl
        | cons first rest =>
          have hfirst : tag ≠ first := fun heq => hpath ⟨rest, by rw [heq]; rfl⟩
          exact (Element.textsAt_singleton _ first _ rest).trans (if_neg hfirst)

/-- Three keys of one path, one that ends before it, one that goes on, and two that are not
valid. -/
def overlapping : Settings :=
  .ofList [("a/b", .integer 1), ("/a//b", .list ["<&>", ""]), ("a/b/", .bool true),
    ("a", .text "x"), ("a/b/c", .text "y"), ("a/1", .text "z"), ("//", .list [])]

theorem textsAt_settings_overlapping :
    (∀ tag ∈ some "users", isElementName tag = true) ∧
    (∀ e ∈ overlapping.entries, Settings.IsValidKey e.1 → e.2 ≠ .list []) ∧
    ∃ root, read? (settings (some "users") overlapping).value = some root ∧
      root.textsAt ["users", "a"] = ["x"] ∧
      root.textsAt ["users", "a", "b"] = ["<&>", "", "1", "true"] ∧
      root.textsAt ["users", "a", "b", "c"] = ["y"] ∧ root.textsAt ["users", "a", "1"] = [] := by
  have hsection : ∀ tag ∈ some "users", isElementName tag = true := by decide
  have hlists : ∀ e ∈ overlapping.entries, Settings.IsValidKey e.1 → e.2 ≠ .list [] := by
    decide
  obtain ⟨-, hempty, htexts, -⟩ := textsAt_settings hsection hlists
  have hsome : ¬∀ key ∈ overlapping.keys, ¬Settings.IsValidKey key := by decide
  obtain ⟨root, hroot, -, hinside, -⟩ := htexts fun hnone => hsome (hempty.1 hnone)
  exact ⟨hsection, hlists, root, hroot, (hinside ["a"]).trans (by decide),
    (hinside ["a", "b"]).trans (by decide), (hinside ["a", "b", "c"]).trans (by decide),
    (hinside ["a", "1"]).trans (by decide)⟩

end Fragment

end ShardManifest
