/-!
# Dictionaries in the order of their keys

Most of what an installation says is keyed by text: settings by path, labels by name, fragments by
filename. Wherever such a collection becomes text its entries come out in ascending order of the
keys. The order of `String` compares code points one by one, which for well-formed text is also
the order of the UTF-8 bytes.

## Main definitions

- `insertEntry` puts an entry into an ascending list of entries and replaces one of the same key
- `Dictionary` is an ascending list of entries, so each key occurs at most once
- `Dictionary.get?`, `Dictionary.insert`, `Dictionary.erase`, `Dictionary.ofList`

## Main results

- `Dictionary.get?_insert`: an insertion answers for its own key and leaves the others alone
- `Dictionary.get?_ofList`: of several entries with one key the last is kept
- `Dictionary.mem_entries_iff`: the entries are exactly what look-ups answer
- `Dictionary.ext_get?`: dictionaries that answer alike are equal
-/

namespace ShardManifest

universe u v

/-- Puts `value` under `key` into an ascending list, in place of an entry with the same key. -/
def insertEntry {α : Type u} (key : String) (value : α) : List (String × α) → List (String × α)
  | [] => [(key, value)]
  | entry :: rest =>
    if key < entry.1 then (key, value) :: entry :: rest
    else if key = entry.1 then (key, value) :: rest
    else entry :: insertEntry key value rest

def Ascending {α : Type u} (entries : List (String × α)) : Prop :=
  entries.Pairwise fun a b => a.1 < b.1

theorem mem_of_mem_insertEntry {α : Type u} {key : String} {value : α} {e : String × α}
    {entries : List (String × α)} (h : e ∈ insertEntry key value entries) :
    e = (key, value) ∨ e ∈ entries := by
  induction entries with
  | nil => simpa [insertEntry] using h
  | cons head rest ih =>
    rw [insertEntry] at h
    split at h
    · simpa using h
    · split at h
      · rcases List.mem_cons.1 h with h | h
        · exact .inl h
        · exact .inr (List.mem_cons_of_mem _ h)
      · rcases List.mem_cons.1 h with h | h
        · exact .inr (h ▸ List.mem_cons_self)
        · exact (ih h).imp id (List.mem_cons_of_mem _)

/-- What holds of the new entry and of those that are there holds of all entries afterwards. -/
theorem forall_mem_insertEntry {α : Type u} {P : String × α → Prop} {key : String} {value : α}
    {entries : List (String × α)} (hnew : P (key, value)) (h : ∀ e ∈ entries, P e) :
    ∀ e ∈ insertEntry key value entries, P e := by
  intro e he
  rcases mem_of_mem_insertEntry he with rfl | he
  · exact hnew
  · exact h e he

/-- Two texts of which neither is smaller are equal, so a third case of a comparison is `>`. -/
theorem lt_of_not_lt_of_ne {a b : String} (h : ¬a < b) (hne : a ≠ b) : b < a := by
  by_cases hba : b < a
  · exact hba
  · exact absurd (String.le_antisymm (String.not_lt.1 hba) (String.not_lt.1 h)) hne

theorem Ascending.insertEntry {α : Type u} {key : String} {value : α}
    {entries : List (String × α)} (h : Ascending entries) :
    Ascending (insertEntry key value entries) := by
  induction entries with
  | nil => exact List.pairwise_singleton _ _
  | cons head rest ih =>
    obtain ⟨hhead, hrest⟩ := List.pairwise_cons.1 h
    rw [ShardManifest.insertEntry]
    split
    · next hlt =>
      refine List.pairwise_cons.2 ⟨fun e he => ?_, h⟩
      rcases List.mem_cons.1 he with rfl | he
      · exact hlt
      · exact String.lt_trans hlt (hhead e he)
    · next hnlt =>
      split
      · next heq => exact List.pairwise_cons.2 ⟨fun e he => heq ▸ hhead e he, hrest⟩
      · next hne =>
        have hafter := lt_of_not_lt_of_ne hnlt hne
        exact List.pairwise_cons.2 ⟨forall_mem_insertEntry hafter hhead, ih hrest⟩

/-- Values keyed by text, in ascending order of the keys. -/
@[ext]
structure Dictionary (α : Type u) where
  /-- The entries, as they are written out. -/
  entries : List (String × α)
  /-- No key occurs twice, and the smaller of two keys comes first. -/
  ascending : Ascending entries

namespace Dictionary

variable {α : Type u} {β : Type v}

instance [DecidableEq α] : DecidableEq (Dictionary α) := fun a b =>
  if h : a.entries = b.entries then isTrue (Dictionary.ext h)
  else isFalse fun hab => h (hab ▸ rfl)

instance [Repr α] : Repr (Dictionary α) := ⟨fun d n => reprPrec d.entries n⟩

def empty : Dictionary α := ⟨[], List.Pairwise.nil⟩

instance : Inhabited (Dictionary α) := ⟨empty⟩

/-- Puts a value under a key; what the key held before is forgotten. -/
def insert (d : Dictionary α) (key : String) (value : α) : Dictionary α :=
  ⟨insertEntry key value d.entries, d.ascending.insertEntry⟩

def erase (d : Dictionary α) (key : String) : Dictionary α :=
  ⟨d.entries.filter fun e => e.1 ≠ key, d.ascending.filter _⟩

def get? (d : Dictionary α) (key : String) : Option α :=
  d.entries.lookup key

/-- Whether a key holds a value. -/
def contains (d : Dictionary α) (key : String) : Bool :=
  (d.get? key).isSome

/-- The keys, ascending. -/
def keys (d : Dictionary α) : List String :=
  d.entries.map Prod.fst

def size (d : Dictionary α) : Nat :=
  d.entries.length

def isEmpty (d : Dictionary α) : Bool :=
  d.entries.isEmpty

/-- Enters a list of pairs from left to right, so that the last of several equal keys counts. -/
def ofList (pairs : List (String × α)) : Dictionary α :=
  pairs.foldl (fun d e => d.insert e.1 e.2) empty

/-- Replaces every value by its image. -/
def map (f : α → β) (d : Dictionary α) : Dictionary β :=
  ⟨d.entries.map fun e => (e.1, f e.2), List.pairwise_map.2 (d.ascending.imp id)⟩

/-- Replaces every value by its image, which may depend on the key. -/
def mapWithKey (f : String → α → β) (d : Dictionary α) : Dictionary β :=
  ⟨d.entries.map fun e => (e.1, f e.1 e.2), List.pairwise_map.2 (d.ascending.imp id)⟩

/-! ### What look-ups answer -/

@[simp] theorem get?_empty (key : String) : (empty : Dictionary α).get? key = none := rfl

theorem lookup_cons_of_ne {k key : String} (h : k ≠ key) (value : α) (rest : List (String × α)) :
    List.lookup k ((key, value) :: rest) = List.lookup k rest := by
  have hb : (k == key) = false := by simpa using h
  simp [List.lookup_cons, hb]

theorem lookup_insertEntry (key k : String) (value : α) (entries : List (String × α)) :
    (insertEntry key value entries).lookup k =
      if k = key then some value else entries.lookup k := by
  induction entries with
  | nil =>
    by_cases h : k = key
    · simp [insertEntry, h]
    · simp [insertEntry, lookup_cons_of_ne h, h]
  | cons head rest ih =>
    obtain ⟨k', v'⟩ := head
    rw [insertEntry]
    split
    · by_cases h : k = key
      · simp [h]
      · simp [lookup_cons_of_ne h, h]
    · split
      · next heq =>
        by_cases h : k = key
        · simp [h]
        · have h' : k ≠ k' := fun hk => h (hk.trans heq.symm)
          simp [lookup_cons_of_ne h, lookup_cons_of_ne h', h]
      · next hne =>
        by_cases h : k = k'
        · have hk : k ≠ key := fun hk => hne (hk.symm.trans h)
          simp [h, Ne.symm hne]
        · simp [lookup_cons_of_ne h, ih]

theorem get?_insert (d : Dictionary α) (key k : String) (value : α) :
    (d.insert key value).get? k = if k = key then some value else d.get? k :=
  lookup_insertEntry key k value d.entries

@[simp] theorem get?_insert_self (d : Dictionary α) (key : String) (value : α) :
    (d.insert key value).get? key = some value := by
  simp [get?_insert]

theorem get?_insert_of_ne {k key : String} (h : k ≠ key) (d : Dictionary α) (value : α) :
    (d.insert key value).get? k = d.get? k := by
  simp [get?_insert, h]

/-- A pair is an entry exactly when its key answers with its value. -/
theorem mem_entries_iff (d : Dictionary α) (key : String) (value : α) :
    (key, value) ∈ d.entries ↔ d.get? key = some value := by
  obtain ⟨entries, h⟩ := d
  simp only [get?]
  induction entries with
  | nil => simp
  | cons head rest ih =>
    obtain ⟨k, v⟩ := head
    obtain ⟨hhead, hrest⟩ := List.pairwise_cons.1 h
    by_cases hk : key = k
    · have hnot : (k, value) ∉ rest := fun hm => String.lt_irrefl k (hhead (k, value) hm)
      simp [hk, hnot, eq_comm]
    · simp [lookup_cons_of_ne hk, hk, ih hrest]

theorem mem_keys_iff (d : Dictionary α) (key : String) :
    key ∈ d.keys ↔ ∃ value, d.get? key = some value := by
  simp [keys, ← mem_entries_iff]

/-- The keys ascend strictly. -/
theorem keys_pairwise (d : Dictionary α) : d.keys.Pairwise (· < ·) :=
  List.pairwise_map.2 d.ascending

/-- Of several pairs with one key the last counts. -/
theorem get?_ofList (pairs : List (String × α)) (key : String) :
    (ofList pairs).get? key = pairs.reverse.lookup key := by
  suffices h : ∀ d : Dictionary α,
      (pairs.foldl (fun d e => d.insert e.1 e.2) d).get? key
        = (pairs.reverse.lookup key).or (d.get? key) by
    simpa [ofList] using h empty
  induction pairs with
  | nil => simp
  | cons head rest ih =>
    intro d
    rw [List.foldl_cons, ih, List.reverse_cons, List.lookup_append, get?_insert]
    obtain ⟨k, v⟩ := head
    by_cases h : key = k
    · cases rest.reverse.lookup key <;> simp [h]
    · cases rest.reverse.lookup key <;> simp [h, lookup_cons_of_ne h]

/-- Ascending lists that answer alike are equal. -/
theorem ascending_ext {a b : List (String × α)} (ha : Ascending a) (hb : Ascending b)
    (h : ∀ key, a.lookup key = b.lookup key) : a = b := by
  induction a generalizing b with
  | nil =>
    cases b with
    | nil => rfl
    | cons head rest =>
      obtain ⟨k, v⟩ := head
      simpa using h k
  | cons head rest ih =>
    obtain ⟨k, v⟩ := head
    cases b with
    | nil => simpa using h k
    | cons head' rest' =>
      obtain ⟨k', v'⟩ := head'
      obtain ⟨hak, har⟩ := List.pairwise_cons.1 ha
      obtain ⟨hbk, hbr⟩ := List.pairwise_cons.1 hb
      -- a key below the head of an ascending list has no entry
      have above : ∀ {k₀ : String} {l : List (String × α)},
          (∀ e ∈ l, k₀ < e.1) → l.lookup k₀ = none := by
        intro k₀ l hl
        induction l with
        | nil => rfl
        | cons e l ih =>
          have hne : k₀ ≠ e.1 := fun heq => String.lt_irrefl _ (heq ▸ hl e List.mem_cons_self)
          rw [lookup_cons_of_ne hne]
          exact ih fun e he => hl e (List.mem_cons_of_mem _ he)
      have hk : k = k' := by
        apply Decidable.byContradiction
        intro hne
        by_cases hlt : k < k'
        · have h₁ := h k
          rw [lookup_cons_of_ne hne, above fun e he => String.lt_trans hlt (hbk e he)] at h₁
          simp at h₁
        · have hgt := lt_of_not_lt_of_ne hlt hne
          have h₁ := h k'
          rw [lookup_cons_of_ne (Ne.symm hne),
            above fun e he => String.lt_trans hgt (hak e he)] at h₁
          simp at h₁
      subst hk
      have hv : v = v' := by simpa using h k
      subst hv
      congr 1
      refine ih har hbr fun key => ?_
      by_cases hkey : key = k
      · rw [hkey, above hak, above hbk]
      · have := h key
        rwa [lookup_cons_of_ne hkey, lookup_cons_of_ne hkey] at this

/-- Dictionaries that answer alike are equal. -/
theorem ext_get? {d e : Dictionary α} (h : ∀ key, d.get? key = e.get? key) : d = e :=
  Dictionary.ext (ascending_ext d.ascending e.ascending h)

end Dictionary

end ShardManifest
