import ShardManifest.Fragment.Settings
import ShardManifest.Proofs.Xml.Grammar

/-!
# Trees of settings

Only paths whose segments are element names are entered into a tree of settings. So whatever the
paths of the settings are, every segment in the tree is an element name, and every element of the
tree has one for its tag.

## Main definitions

- `SettingTree.WellNamed`: every segment in a tree is an element name

## Main results

- `SettingTree.wellNamed_ofSettings`: the tree of any settings is so
- `SettingTree.named_elementsOfAll_ofSettings`: the tags of its elements are element names
-/

namespace ShardManifest.SettingTree

/-- Every segment in a tree is an element name. -/
inductive WellNamed : SettingTree → Prop
  | node {values : List String} {children : List (String × SettingTree)}
      (hnames : ∀ e ∈ children, Xml.isElementName e.1 = true)
      (hchildren : ∀ e ∈ children, e.2.WellNamed) : WellNamed (node values children)

theorem wellNamed_empty : empty.WellNamed := .node (by simp) (by simp)

/-- What holds of the empty tree and of every tree in a row holds of the tree below a segment. -/
theorem getD_lookup_of_forall {P : SettingTree → Prop} (hempty : P empty)
    {children : List (String × SettingTree)} (h : ∀ e ∈ children, P e.2) (segment : String) :
    P ((children.lookup segment).getD empty) := by
  cases hfound : children.lookup segment with
  | none => exact hempty
  | some tree =>
    obtain ⟨before, after, rfl, -⟩ := List.lookup_eq_some_iff.1 hfound
    exact h (segment, tree) (by simp)

theorem WellNamed.getD_lookup {children : List (String × SettingTree)}
    (h : ∀ e ∈ children, e.2.WellNamed) (segment : String) :
    ((children.lookup segment).getD empty).WellNamed :=
  getD_lookup_of_forall wellNamed_empty h segment

theorem WellNamed.insert {tree : SettingTree} (h : tree.WellNamed) {path : List String}
    (hpath : ∀ s ∈ path, Xml.isElementName s = true) (added : List String) :
    (tree.insert added path).WellNamed := by
  induction path generalizing tree with
  | nil =>
    obtain ⟨hnames, hchildren⟩ := h
    exact .node hnames hchildren
  | cons segment rest ih =>
    obtain ⟨hsegment, hrest⟩ := List.forall_mem_cons.1 hpath
    obtain ⟨hnames, hchildren⟩ := h
    have hbelow := ih (WellNamed.getD_lookup hchildren segment) hrest
    exact .node (forall_mem_insertEntry hsegment hnames) (forall_mem_insertEntry hbelow hchildren)

/-- A run of entries leaves out every path with a segment that is no element name. -/
theorem WellNamed.enterAll {tree : SettingTree} (h : tree.WellNamed)
    (entries : List (String × Setting)) : (tree.enterAll entries).value.WellNamed := by
  induction entries generalizing tree with
  | nil => exact h
  | cons e entries ih =>
    obtain ⟨path, setting⟩ := e
    rw [SettingTree.enterAll]
    split
    next => exact ih h
    next =>
      split
      next => exact ih h
      next hvalid => exact ih (h.insert (by simpa using hvalid) _)

theorem wellNamed_ofSettings (s : Settings) : (ofSettings s).value.WellNamed :=
  wellNamed_empty.enterAll s.entries

/-! ### The elements of a tree -/

theorem elementsOfAll_eq_flatMap (children : List (String × SettingTree)) :
    elementsOfAll children = children.flatMap fun e => elements e.1 e.2 := by
  induction children with
  | nil => rfl
  | cons e rest ih => rw [elementsOfAll, ih, List.flatMap_cons]

/-- The tags of the elements of a tree are its segments, and the one it stands below. -/
theorem WellNamed.named_elements {tree : SettingTree} (h : tree.WellNamed) {tag : String}
    (htag : Xml.isElementName tag = true) : ∀ e ∈ elements tag tree, e.Named := by
  induction h generalizing tag with
  | node hnames _ ih =>
    intro element helement
    rw [elements, List.mem_append] at helement
    rcases helement with hvalue | hbranch
    · obtain ⟨value, -, rfl⟩ := List.mem_map.1 hvalue
      exact .leaf htag
    · split at hbranch
      next => cases hbranch
      next =>
        rw [List.mem_singleton.1 hbranch]
        refine .branch htag fun inner hinner => ?_
        rw [elementsOfAll_eq_flatMap, List.mem_flatMap] at hinner
        obtain ⟨e, he, hinner⟩ := hinner
        exact ih e he (hnames e he) inner hinner

/-- Whatever the paths of settings are, the elements of their tree have element names. -/
theorem named_elementsOfAll_ofSettings (s : Settings) :
    ∀ e ∈ elementsOfAll (ofSettings s).value.children, e.Named := by
  intro element helement
  rw [elementsOfAll_eq_flatMap, List.mem_flatMap] at helement
  obtain ⟨e, he, helement⟩ := helement
  have h := wellNamed_ofSettings s
  cases htree : (ofSettings s).value with
  | node values children =>
    rw [htree] at h he
    obtain ⟨hnames, hchildren⟩ := h
    exact (hchildren e he).named_elements (hnames e he) element helement

end ShardManifest.SettingTree
