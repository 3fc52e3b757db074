import ShardManifest.Document
import ShardManifest.Proofs.DictionaryRuns
import ShardManifest.Source.Record

/-!
# Documents as nodes

A document that is written as JSON is found by a reader as a tree of nodes. Records are written as
rows of members, of which some may be left out; here such rows are read back member by member.

## Main definitions

- `Document.node`: what a reader finds where a document was written
- `Document.Row`: members of which some may be left out

## Main results

- `Document.Row.members?_node_document`, `Document.Row.lookup_members`: the members of a written row
- `Document.Row.optional?_members`, `Document.Row.orDefault?_members`: members that are read back
-/

namespace ShardManifest

namespace Document

mutual

/-- The node of a document in JSON, which has null in the place of a double that is not finite. -/
def node : Document → Node
  | null => .scalar (.fixed .null)
  | bool b => .scalar (.fixed (.bool b))
  | integer n => .scalar (.fixed (.integer n))
  | float x => .scalar (.fixed (if x.isFinite then .float x else .null))
  | text s => .scalar (.fixed (.text s))
  | list items => .list none (nodes items)
  | mapping members => .mapping none (memberNodes members)

def nodes : List Document → List Node
  | [] => []
  | d :: rest => node d :: nodes rest

def memberNodes : List (String × Document) → List (Node × Node)
  | [] => []
  | (name, d) :: rest => (.scalar (.fixed (.text name)), node d) :: memberNodes rest

end

/-- Members with the nodes of their values. -/
def membersOf (ms : List (String × Document)) : Members := ms.map fun e => (e.1, e.2.node)

theorem node_list (items : List Document) : (list items).node = .list none (items.map node) := by
  have h : ∀ items : List Document, nodes items = items.map node := by
    intro items
    induction items with
    | nil => rfl
    | cons d rest ih => rw [nodes, ih, List.map_cons]
  rw [node, h]

theorem entries?_node_mapping (ms : List (String × Document)) :
    (mapping ms).node.entries? = some (membersOf ms) := by
  change (memberNodes ms).mapM (fun e => e.1.text?.map (·, e.2)) = some (membersOf ms)
  induction ms with
  | nil => rfl
  | cons e rest ih =>
    rw [memberNodes, List.mapM_cons, ih]
    rfl

theorem names_membersOf (ms : List (String × Document)) :
    (membersOf ms).map Prod.fst = ms.map Prod.fst := by
  rw [membersOf, List.map_map]
  rfl

theorem exists_of_mem_mapM {α β : Type} {f : α → Option β} {l : List α} {bs : List β} {b : β}
    (h : l.mapM f = some bs) (hb : b ∈ bs) : ∃ a ∈ l, f a = some b := by
  induction l generalizing bs with
  | nil =>
    cases h
    cases hb
  | cons a l ih =>
    simp only [List.mapM_cons, Option.bind_eq_bind, Option.bind_eq_some_iff, Option.pure_def,
      Option.some.injEq] at h
    obtain ⟨first, hfirst, rest, hrest, rfl⟩ := h
    rcases List.mem_cons.1 hb with rfl | hb
    · exact ⟨a, List.mem_cons_self, hfirst⟩
    · obtain ⟨c, hc, hvalue⟩ := ih hrest hb
      exact ⟨c, List.mem_cons_of_mem a hc, hvalue⟩

theorem exists_of_mapM_eq_some {α β : Type} {f : α → Option β} {l : List α} {bs : List β} {a : α}
    (h : l.mapM f = some bs) (ha : a ∈ l) : ∃ b, f a = some b := by
  induction l generalizing bs with
  | nil => cases ha
  | cons c l ih =>
    simp only [List.mapM_cons, Option.bind_eq_bind, Option.bind_eq_some_iff, Option.pure_def,
      Option.some.injEq] at h
    obtain ⟨first, hfirst, rest, hrest, rfl⟩ := h
    rcases List.mem_cons.1 ha with rfl | ha
    · exact ⟨first, hfirst⟩
    · exact ih hrest ha

theorem mapM_eq_some_map {α β : Type} {f : α → Option β} {g : α → β} {l : List α}
    (h : ∀ a ∈ l, f a = some (g a)) : l.mapM f = some (l.map g) := by
  induction l with
  | nil => rfl
  | cons a l ih =>
    have hhead := h a List.mem_cons_self
    have htail := ih fun b hb => h b (List.mem_cons_of_mem a hb)
    rw [List.mapM_cons, hhead, htail]
    rfl

/-- A row that was written item by item is read item by item. -/
theorem mapM_map_eq_some_map {α β γ : Type} {read : β → Option γ} {write : α → β} {view : α → γ}
    {l : List α} (h : ∀ a ∈ l, read (write a) = some (view a)) :
    (l.map write).mapM read = some (l.map view) := by
  rw [List.mapM_map]
  exact mapM_eq_some_map h

/-- A row that was written item by item is read back if every item is. -/
theorem mapM_map_eq_some {α β : Type} {f : β → Option α} {g : α → β} {l : List α}
    (h : ∀ a ∈ l, f (g a) = some a) : (l.map g).mapM f = some l := by
  rw [@mapM_map_eq_some_map _ _ _ f g id l h, List.map_id]

theorem listOf?_node_list {α : Type} {read : Node → Option α} {write : α → Document} {l : List α}
    (h : ∀ a ∈ l, read (write a).node = some a) :
    (list (l.map write)).node.listOf? read = some l := by
  rw [node_list, List.map_map]
  exact mapM_map_eq_some h

/-- A name that occurs once at most finds its value only. -/
theorem filter_name_of_nodup {ms : Members} (h : (ms.map Prod.fst).Nodup) (name : String) :
    (ms.filter fun e => e.1 = name) = ((ms.lookup name).map (name, ·)).toList := by
  induction ms with
  | nil => rfl
  | cons e ms ih =>
    obtain ⟨key, n⟩ := e
    obtain ⟨hkey, hrest⟩ := List.nodup_cons.1 h
    by_cases hname : name = key
    · subst hname
      have hnone : ∀ e ∈ ms, e.1 ≠ name := by
        intro e he heq
        have hmem : e.1 ∈ ms.map Prod.fst := List.mem_map_of_mem he
        exact hkey (heq ▸ hmem)
      simpa [List.filter_cons, List.filter_eq_nil_iff] using hnone
    · rw [Dictionary.lookup_cons_of_ne hname, ← ih hrest, List.filter_cons_of_neg]
      simpa using Ne.symm hname

/-- Entries that were written value by value are read back if every value is. -/
theorem mapM_membersOf_entries {α : Type} {read : Node → Option α} {write : α → Document}
    {entries : List (String × α)} (h : ∀ e ∈ entries, read (write e.2).node = some e.2) :
    (membersOf (entries.map fun e => (e.1, write e.2))).mapM
      (fun e => (read e.2).map (e.1, ·)) = some entries := by
  rw [membersOf, List.map_map]
  refine mapM_map_eq_some fun e he => ?_
  simp only [Function.comp_apply, h e he, Option.map_some]

/-! ### Parts of a document -/

theorem exists_of_entries?_node {d : Document} {es : List (String × Node)}
    (h : d.node.entries? = some es) : ∃ ms, es = membersOf ms := by
  cases d with
  | mapping ms =>
    rw [entries?_node_mapping] at h
    exact ⟨ms, (Option.some.inj h).symm⟩
  | _ => cases h

theorem exists_node_of_mem_membersOf {ms : List (String × Document)} {e : String × Node}
    (h : e ∈ membersOf ms) : ∃ d : Document, e.2 = d.node := by
  obtain ⟨m, -, rfl⟩ := List.mem_map.1 h
  exact ⟨m.2, rfl⟩

/-- The members of a record are the items of a list under its names, or entries. -/
theorem members?_cases {n : Node} {names : List String} {ms : Members}
    (h : n.members? names = some ms) :
    (∃ tag items, n = .list tag items ∧ ms = names.zip items) ∨ n.entries? = some ms := by
  cases n with
  | list tag items =>
    rw [Node.members?] at h
    split at h
    next =>
      cases h
      exact .inl ⟨tag, items, rfl, rfl⟩
    next => cases h
  | _ =>
    simp only [Node.members?, Option.bind_eq_bind, Option.bind_eq_some_iff] at h
    obtain ⟨entries, hentries, h⟩ := h
    split at h
    next =>
      cases h
      exact .inr hentries
    next => cases h

theorem exists_node_of_members? {d : Document} {names : List String} {ms : Members} {name : String}
    {n : Node} (h : d.node.members? names = some ms) (hmember : ms.lookup name = some n) :
    ∃ e : Document, n = e.node := by
  obtain ⟨before, after, hsplit, -⟩ := List.lookup_eq_some_iff.1 hmember
  have hmem : (name, n) ∈ ms := by simp [hsplit]
  rcases members?_cases h with ⟨tag, items, hd, rfl⟩ | hentries
  · cases d with
    | list ds =>
      rw [node_list] at hd
      cases hd
      obtain ⟨e, -, he⟩ := List.mem_map.1 (List.of_mem_zip hmem).2
      exact ⟨e, he.symm⟩
    | _ => cases hd
  · obtain ⟨fields, rfl⟩ := exists_of_entries?_node hentries
    exact exists_node_of_mem_membersOf hmem

theorem optional?_node_list {α : Type} {read : Node → Option α} {write : α → Document} {l : List α}
    (h : ∀ a ∈ l, read (write a).node = some a) :
    (list (l.map write)).node.optional? (Node.listOf? read) = some (some l) := by
  have hread := listOf?_node_list h
  rw [node_list] at hread ⊢
  exact congrArg (Option.map some) hread

/-! ### Scalars -/

theorem text?_node_text (s : String) : (text s).node.text? = some s := rfl

theorem optional?_node_text (s : String) : (text s).node.optional? Node.text? = some (some s) := rfl

theorem bool?_node_bool (b : Bool) : (bool b).node.bool? = some b := rfl

theorem optional?_node_bool (b : Bool) : (bool b).node.optional? Node.bool? = some (some b) := rfl

theorem natural?_node_integer {n bound : Nat} (h : n < bound) :
    (integer n).node.natural? bound = some n :=
  if_pos ⟨h, Bool.false_ne_true⟩

theorem word16?_node_integer (n : UInt16) : (integer n.toNat).node.word16? = some n := by
  rw [Node.word16?, natural?_node_integer n.toNat_lt, Option.map_some, UInt16.ofNat_toNat]

theorem word32?_node_integer (n : UInt32) : (integer n.toNat).node.word32? = some n := by
  rw [Node.word32?, natural?_node_integer n.toNat_lt, Option.map_some, UInt32.ofNat_toNat]

theorem optional?_node_word16 (n : UInt16) :
    (integer n.toNat).node.optional? Node.word16? = some (some n) :=
  congrArg (Option.map some) (word16?_node_integer n)

theorem optional?_node_word32 (n : UInt32) :
    (integer n.toNat).node.optional? Node.word32? = some (some n) :=
  congrArg (Option.map some) (word32?_node_integer n)

theorem lookup_membersOf (ms : List (String × Document)) (name : String) :
    (membersOf ms).lookup name = (ms.lookup name).map node :=
  Dictionary.lookup_map_value (fun _ => node) ms name

/-! ### Rows -/

/-- The members of a record under different names; those without a value are not written. -/
structure Row where
  fields : List (String × Option Document)
  nodup : (fields.map Prod.fst).Nodup

/-- The members of a row that have a value. -/
def present (fields : List (String × Option Document)) : List (String × Document) :=
  fields.filterMap fun f => f.2.map (f.1, ·)

theorem always_eq_present (name : String) (d : Document) :
    always name d = present [(name, some d)] := rfl

theorem whenSet_eq_present {α : Type} (name : String) (write : α → Document) (value : Option α) :
    whenSet name write value = present [(name, value.map write)] := by
  cases value <;> rfl

/-- A list that is written unless it is empty. -/
def listed {α : Type} (write : α → Document) (items : List α) : Option Document :=
  if items = [] then none else some (.list (items.map write))

theorem whenAny_eq_present {α : Type} (name : String) (write : α → Document) (items : List α) :
    whenAny name write items = present [(name, listed write items)] := by
  cases items <;> rfl

/-- Entries that are written unless there are none. -/
def entered {α : Type} (write : α → Document) (d : Dictionary α) : Option Document :=
  if d.entries = [] then none else some (.mapping (d.entries.map fun e => (e.1, write e.2)))

theorem present_append (fields more : List (String × Option Document)) :
    present fields ++ present more = present (fields ++ more) :=
  List.filterMap_append.symm

theorem names_present_sublist (fields : List (String × Option Document)) :
    ((present fields).map Prod.fst).Sublist (fields.map Prod.fst) := by
  induction fields with
  | nil => exact List.Sublist.slnil
  | cons f fields ih =>
    obtain ⟨name, value⟩ := f
    cases value with
    | none => exact ih.cons name
    | some d => exact ih.cons_cons name

theorem lookup_present {fields : List (String × Option Document)}
    (h : (fields.map Prod.fst).Nodup) (name : String) :
    (present fields).lookup name = (fields.lookup name).join := by
  induction fields with
  | nil => rfl
  | cons f fields ih =>
    obtain ⟨key, value⟩ := f
    obtain ⟨hkey, hrest⟩ := List.nodup_cons.1 h
    by_cases hname : name = key
    · subst hname
      cases value with
      | none =>
        -- the name does not occur in the rest of the row
        have hlookup : fields.lookup name = none := by
          rw [List.lookup_eq_none_iff]
          intro f hf
          have hmem : f.1 ∈ fields.map Prod.fst := List.mem_map_of_mem hf
          have hne : name ≠ f.1 := fun heq => hkey (heq ▸ hmem)
          simpa using hne
        have hnone : (present fields).lookup name = none := by
          rw [ih hrest, hlookup]
          rfl
        simpa [present] using hnone
      | some d => simp [present]
    · have htail := ih hrest
      cases value with
      | none => simpa [present, Dictionary.lookup_cons_of_ne hname] using htail
      | some d => simpa [present, Dictionary.lookup_cons_of_ne hname] using htail

namespace Row

variable {row : Row}

def document (row : Row) : Document := .mapping (present row.fields)

/-- What a reader finds of a row. -/
def members (row : Row) : Members := membersOf (present row.fields)

theorem nodup_names_members (row : Row) : (row.members.map Prod.fst).Nodup := by
  rw [members, names_membersOf]
  exact (names_present_sublist row.fields).nodup row.nodup

theorem entries?_node_document (row : Row) : row.document.node.entries? = some row.members :=
  entries?_node_mapping _

/-- A row is read with all that was written of it. -/
theorem members?_node_document (row : Row) (names : List String) :
    row.document.node.members? names = some row.members := by
  have honce : ∀ name, (row.members.filter fun e => e.1 = name).length ≤ 1 := by
    intro name
    rw [filter_name_of_nodup row.nodup_names_members]
    cases row.members.lookup name <;> simp
  have hentries := row.entries?_node_document
  rw [document] at hentries ⊢
  simp only [node] at hentries ⊢
  rw [Node.members?, hentries]
  · simp [honce]
  · simp

theorem lookup_members (row : Row) (name : String) :
    row.members.lookup name = (row.fields.lookup name).join.map node := by
  rw [members, lookup_membersOf, lookup_present row.nodup]

variable {α : Type} {name : String} {read : Node → Option α} {write : α → Document}

theorem optional?_members {value : Option α} (hfield : row.fields.lookup name = some (value.map write))
    (hread : ∀ a, (write a).node.optional? read = some (some a)) :
    row.members.optional? name read = some value := by
  rw [Members.optional?, lookup_members, hfield]
  cases value with
  | none => rfl
  | some a => exact hread a

theorem required?_members {d : Document} {a : α} (hfield : row.fields.lookup name = some (some d))
    (hread : read d.node = some a) : row.members.required? name read = some a := by
  rw [Members.required?, lookup_members, hfield]
  exact hread

theorem orDefault?_members {d : Document} {a default : α}
    (hfield : row.fields.lookup name = some (some d)) (hread : read d.node = some a) :
    row.members.orDefault? name default read = some a := by
  rw [Members.orDefault?, lookup_members, hfield]
  exact hread

theorem orDefault?_members_listed {l : List α}
    (hfield : row.fields.lookup name = some (listed write l))
    (hread : ∀ a ∈ l, read (write a).node = some a) :
    row.members.orDefault? name [] (Node.listOf? read) = some l := by
  rw [Members.orDefault?, lookup_members, hfield, listed]
  by_cases hl : l = []
  · simp [hl]
  · simpa [hl] using listOf?_node_list hread

end Row

end Document

end ShardManifest
