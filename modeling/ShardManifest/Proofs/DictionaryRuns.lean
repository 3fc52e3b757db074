import Mathlib.Data.Finset.Card
import ShardManifest.Text.Dictionary

/-!
# Dictionaries after a run of insertions

A dictionary that is filled entry by entry answers for the last entry of each name.

## Main definitions

- `lastNamed`: the last entry of a row that has a given name
- `IsLastNamed`: an entry is the last one of a name

## Main results

- `Dictionary.get?_foldl_insert`: what look-ups answer after a run of insertions
- `Dictionary.get?_mapWithKey`: what look-ups answer when every value is replaced
- `Dictionary.ofList_entries`: a dictionary is the run of its own entries
-/

namespace ShardManifest

section LastNamed

variable {α : Type} {name : α → String} {l : List α} {key : String} {a : α}

/-- The last entry of a row that has a given name. -/
def lastNamed (name : α → String) (l : List α) (key : String) : Option α :=
  l.reverse.find? fun a => name a = key

theorem lastNamed_append (l m : List α) (key : String) :
    lastNamed name (l ++ m) key = (lastNamed name m key).or (lastNamed name l key) := by
  rw [lastNamed, List.reverse_append, List.find?_append, lastNamed, lastNamed]

theorem lastNamed_cons (a : α) (l : List α) (key : String) :
    lastNamed name (a :: l) key =
      (lastNamed name l key).or (if name a = key then some a else none) := by
  rw [lastNamed, List.reverse_cons, List.find?_append, lastNamed]
  by_cases h : name a = key <;> simp [h]

theorem mem_of_lastNamed_eq_some (h : lastNamed name l key = some a) : a ∈ l :=
  List.mem_reverse.1 (List.mem_of_find?_eq_some h)

theorem name_of_lastNamed_eq_some (h : lastNamed name l key = some a) : name a = key := by
  simpa using List.find?_some h

theorem exists_lastNamed_eq_some_iff :
    (∃ a, lastNamed name l key = some a) ↔ ∃ a ∈ l, name a = key := by
  constructor
  · rintro ⟨a, h⟩
    exact ⟨a, mem_of_lastNamed_eq_some h, name_of_lastNamed_eq_some h⟩
  · rintro ⟨a, ha, hname⟩
    rw [← Option.isSome_iff_exists, lastNamed, List.find?_isSome]
    exact ⟨a, List.mem_reverse.2 ha, by simpa using hname⟩

/-- An entry of a row has a name, and no entry behind it has that name. -/
def IsLastNamed (name : α → String) (l : List α) (key : String) (a : α) : Prop :=
  ∃ before after, l = before ++ a :: after ∧ name a = key ∧ ∀ b ∈ after, name b ≠ key

theorem lastNamed_eq_some_iff : lastNamed name l key = some a ↔ IsLastNamed name l key a := by
  rw [lastNamed, List.find?_eq_some_iff_append]
  constructor
  · rintro ⟨hname, after, before, hsplit, hafter⟩
    refine ⟨before.reverse, after.reverse, ?_, of_decide_eq_true hname, fun b hb => ?_⟩
    · rw [← List.reverse_reverse l, hsplit]
      simp
    · simpa using hafter b (List.mem_reverse.1 hb)
  · rintro ⟨before, after, rfl, hname, hafter⟩
    refine ⟨decide_eq_true hname, after.reverse, before.reverse, by simp, fun b hb => ?_⟩
    simpa using hafter b (List.mem_reverse.1 hb)

theorem lastNamed_eq_none_iff : lastNamed name l key = none ↔ ∀ a ∈ l, name a ≠ key := by
  rw [lastNamed, List.find?_eq_none]
  simp

/-- Where names are the only ones of their row, the last entry of a name is the entry of that
name. -/
theorem lastNamed_eq_some_of_mem (unique : ∀ b ∈ l, name b = name a → b = a) (ha : a ∈ l) :
    lastNamed name l (name a) = some a := by
  obtain ⟨b, hb⟩ := exists_lastNamed_eq_some_iff.2 ⟨a, ha, rfl⟩
  rw [hb, unique b (mem_of_lastNamed_eq_some hb) (name_of_lastNamed_eq_some hb)]

end LastNamed

/-- Where every name occurs once, look-ups find what is there. -/
theorem lookup_eq_some_iff_mem {α : Type} {l : List (String × α)} {key : String} {value : α}
    (h : (l.map Prod.fst).Nodup) : l.lookup key = some value ↔ (key, value) ∈ l := by
  induction l with
  | nil => simp
  | cons e l ih =>
    obtain ⟨k, v⟩ := e
    obtain ⟨hk, hrest⟩ := List.nodup_cons.1 h
    by_cases hkey : key = k
    · have hnot : (k, value) ∉ l := fun hmem => hk (List.mem_map.2 ⟨_, hmem, rfl⟩)
      simp [hkey, hnot, eq_comm]
    · simp [Dictionary.lookup_cons_of_ne hkey, hkey, ih hrest]

namespace Dictionary

variable {α β : Type}

theorem contains_iff {d : Dictionary α} {key : String} :
    d.contains key = true ↔ ∃ value, d.get? key = some value := by
  rw [contains, Option.isSome_iff_exists]

/-- A dictionary is empty exactly if no key answers. -/
theorem isEmpty_iff {d : Dictionary α} : d.isEmpty = true ↔ ∀ key, d.get? key = none := by
  rw [isEmpty, List.isEmpty_iff]
  constructor
  · intro h key
    rw [get?, h]
    rfl
  · intro h
    refine List.eq_nil_iff_forall_not_mem.2 fun e he => ?_
    have hget := (mem_entries_iff d e.1 e.2).1 he
    rw [h] at hget
    cases hget

theorem contains_insert_iff {d : Dictionary α} {key k : String} {value : α} :
    (d.insert key value).contains k = true ↔ d.contains k = true ∨ k = key := by
  simp only [contains, get?_insert]
  by_cases h : k = key <;> simp [h]

/-- After a run of insertions the last entry of a name counts, and what was there before counts
for the other names. -/
theorem get?_foldl_insert (name : β → String) (value : β → α) (l : List β) (d : Dictionary α)
    (key : String) :
    (l.foldl (fun d b => d.insert (name b) (value b)) d).get? key =
      ((lastNamed name l key).map value).or (d.get? key) := by
  induction l generalizing d with
  | nil => rfl
  | cons b l ih =>
    rw [List.foldl_cons, ih, lastNamed_cons, get?_insert]
    -- a later entry of the name hides this one
    cases lastNamed name l key with
    | some c => rfl
    | none => by_cases h : name b = key <;> simp [h, Ne.symm]

theorem lookup_map_value (f : String → α → β) (entries : List (String × α)) (key : String) :
    (entries.map fun e => (e.1, f e.1 e.2)).lookup key = (entries.lookup key).map (f key) := by
  induction entries with
  | nil => rfl
  | cons e entries ih =>
    obtain ⟨k, v⟩ := e
    by_cases h : key = k
    · simp [h]
    · rw [List.map_cons, lookup_cons_of_ne h, lookup_cons_of_ne h, ih]

theorem get?_mapWithKey (f : String → α → β) (d : Dictionary α) (key : String) :
    (d.mapWithKey f).get? key = (d.get? key).map (f key) :=
  lookup_map_value f d.entries key

/-- A key above all others is entered at the end. -/
theorem insertEntry_of_forall_lt {entries : List (String × α)} {key : String} {value : α}
    (h : ∀ e ∈ entries, e.1 < key) : insertEntry key value entries = entries ++ [(key, value)] := by
  induction entries with
  | nil => rfl
  | cons e entries ih =>
    have hlt : e.1 < key := h e List.mem_cons_self
    have hnot : ¬key < e.1 := String.lt_asymm hlt
    have hne : key ≠ e.1 := fun heq => String.lt_irrefl key (heq ▸ hlt)
    rw [insertEntry, if_neg hnot, if_neg hne, ih fun e he => h e (List.mem_cons_of_mem _ he)]
    rfl

theorem entries_foldl_insert (d : Dictionary α) (rest : List (String × α))
    (h : Ascending (d.entries ++ rest)) :
    (rest.foldl (fun d e => d.insert e.1 e.2) d).entries = d.entries ++ rest := by
  induction rest generalizing d with
  | nil => simp
  | cons e rest ih =>
    obtain ⟨-, -, hbelow⟩ := List.pairwise_append.1 h
    have hinsert : (d.insert e.1 e.2).entries = d.entries ++ [e] :=
      insertEntry_of_forall_lt fun a ha => hbelow a ha e List.mem_cons_self
    have hrow : (d.insert e.1 e.2).entries ++ rest = d.entries ++ e :: rest := by
      rw [hinsert, List.append_assoc, List.singleton_append]
    rw [List.foldl_cons, ih _ (hrow ▸ h), hrow]

theorem get?_ofList_of_nodup {pairs : List (String × α)} (h : (pairs.map Prod.fst).Nodup)
    (key : String) : (ofList pairs).get? key = pairs.lookup key := by
  have hreverse : (pairs.reverse.map Prod.fst).Nodup := by
    rw [List.map_reverse, List.nodup_reverse]
    exact h
  rw [get?_ofList]
  refine Option.ext fun value => ?_
  rw [lookup_eq_some_iff_mem hreverse, List.mem_reverse, lookup_eq_some_iff_mem h]

theorem mem_of_mem_entries_ofList {pairs : List (String × α)} {e : String × α}
    (h : e ∈ (ofList pairs).entries) : e ∈ pairs := by
  obtain ⟨key, value⟩ := e
  rw [mem_entries_iff, get?_ofList] at h
  obtain ⟨before, after, hsplit, -⟩ := List.lookup_eq_some_iff.1 h
  have hmem : (key, value) ∈ pairs.reverse := by simp [hsplit]
  exact List.mem_reverse.1 hmem

/-- A dictionary has an entry for each of its keys. -/
theorem size_eq_card {d : Dictionary α} {names : List String}
    (h : ∀ key, key ∈ d.keys ↔ key ∈ names) : d.size = names.toFinset.card := by
  have hnodup : d.keys.Nodup := d.keys_pairwise.imp String.ne_of_lt
  have hsize : d.size = d.keys.length := (List.length_map _).symm
  rw [hsize, ← List.toFinset_card_of_nodup hnodup]
  congr 1
  ext key
  simp [h]

theorem ofList_entries (d : Dictionary α) : ofList d.entries = d :=
  Dictionary.ext (entries_foldl_insert empty d.entries d.ascending)

end Dictionary

end ShardManifest
