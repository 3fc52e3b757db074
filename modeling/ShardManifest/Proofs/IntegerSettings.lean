import ShardManifest.Proofs.HollowElements
import ShardManifest.Proofs.JsonNumerals

/-!
# Whole numbers in settings

A number in a setting is exact if it is whole and 64 bits hold it. Its numeral is read without a
double in between, as a signed word where that is possible and else as an unsigned one, and it is
displayed as the numeral that was read. A document of settings may hold more at the path of a key:
the values of other keys, and an element that goes on from there. So what is said about one setting
is said about its place among them.

## Main definitions

- `Setting.ofJson?`: the setting that a JSON text spells
- `Settings.place`: how many values come before those of a key at its path
- `Fragment.HasLeaf`: what a document has at the place of a key

## Main results

- `Setting.ofLiteral?_eq_integer_iff`, `Setting.ofLiteral?_eq_unsigned_iff`: what becomes a whole
  number
- `SettingTree.Sorted.valuesAt_prefix_textsAt`: the elements of a tree begin with its values
- `Fragment.hasLeaf_settings`: a document has the one value of a key at its place
- `Setting.integers_exact`: whole numbers are exact from a JSON text to a file
-/

namespace ShardManifest

/-! ### Reading whole numbers -/

namespace Setting

/-- The setting that a JSON text spells. -/
def ofJson? (text : String) : Option Setting := Json.read? text >>= read?

theorem ofJson?_numeral (n : Int) :
    ofJson? (toString n) = (Json.word? (toString n).toList).bind ofLiteral? := by
  rw [ofJson?, Json.read?_numeral]
  cases Json.word? (toString n).toList <;> rfl

theorem ofLiteral?_integer (n : Int) :
    ofLiteral? (.integer n) =
      if -2 ^ 63 ≤ n ∧ n < 2 ^ 63 then some (integer (Int64.ofInt n))
      else if 2 ^ 63 ≤ n ∧ n < 2 ^ 64 then some (unsigned (UInt64.ofNat n.toNat)) else none := by
  have hsigned : (Int64.minValue.toInt ≤ n ∧ n ≤ Int64.maxValue.toInt) ↔
      -2 ^ 63 ≤ n ∧ n < 2 ^ 63 := by
    rw [Int64.toInt_minValue, Int64.toInt_maxValue]
    omega
  have hunsigned : (Int64.maxValue.toInt < n ∧ n < UInt64.size) ↔ 2 ^ 63 ≤ n ∧ n < 2 ^ 64 := by
    have hsize : (UInt64.size : Int) = 2 ^ 64 := rfl
    rw [Int64.toInt_maxValue, hsize]
    omega
  simp only [ofLiteral?, hsigned, hunsigned]

/-- A signed setting comes from the whole number that it holds and from nothing else. -/
theorem ofLiteral?_eq_integer_iff {value : Literal} {k : Int64} :
    ofLiteral? value = some (integer k) ↔ value = .integer k.toInt := by
  constructor
  · intro h
    cases value with
    | integer n =>
      rw [ofLiteral?_integer] at h
      split at h
      next hn =>
        obtain rfl := integer.inj (Option.some.inj h)
        rw [Int64.toInt_ofInt_of_le hn.1 hn.2]
      next => split at h <;> simp at h
    | _ => simp [ofLiteral?] at h
  · rintro rfl
    rw [ofLiteral?_integer, if_pos ⟨k.le_toInt, k.toInt_lt⟩, Int64.ofInt_toInt]

/-- An unsigned setting comes from the whole number that it holds, which no signed setting can hold,
and from nothing else. -/
theorem ofLiteral?_eq_unsigned_iff {value : Literal} {k : UInt64} :
    ofLiteral? value = some (unsigned k) ↔ value = .integer k.toNat ∧ 2 ^ 63 ≤ k.toNat := by
  constructor
  · intro h
    cases value with
    | integer n =>
      rw [ofLiteral?_integer] at h
      split at h
      next => simp at h
      next =>
        split at h
        next hn =>
          have hsize : n.toNat < UInt64.size := by
            have hvalue : UInt64.size = 2 ^ 64 := rfl
            omega
          obtain rfl := unsigned.inj (Option.some.inj h)
          rw [UInt64.toNat_ofNat_of_lt' hsize, Literal.integer.injEq]
          omega
        next => simp at h
    | _ => simp [ofLiteral?] at h
  · rintro ⟨rfl, hk⟩
    have hbound := k.toNat_lt
    rw [ofLiteral?_integer, if_neg (by omega), if_pos (by omega), Int.toNat_natCast,
      UInt64.ofNat_toNat]

/-- The numeral of a number is a signed setting exactly if that holds the number. -/
theorem ofJson?_eq_integer_iff {n : Int} {k : Int64} :
    ofJson? (toString n) = some (integer k) ↔ k.toInt = n := by
  have hlow := k.le_toInt
  have hhigh := k.toInt_lt
  simp only [ofJson?_numeral, Option.bind_eq_some_iff, ofLiteral?_eq_integer_iff, exists_eq_right,
    Json.word?_numeral_iff]
  omega

/-- The numeral of a number is an unsigned setting exactly if that holds the number and no signed
setting does. -/
theorem ofJson?_eq_unsigned_iff {n : Int} {k : UInt64} :
    ofJson? (toString n) = some (unsigned k) ↔ k.toNat = n ∧ 2 ^ 63 ≤ n := by
  have hhigh := k.toNat_lt
  simp only [ofJson?_numeral, Option.bind_eq_some_iff, ofLiteral?_eq_unsigned_iff,
    ← and_assoc, and_comm, exists_eq_right, Json.word?_numeral_iff]
  omega

theorem exists_ofJson?_eq_integer_iff {n : Int} :
    (∃ k, ofJson? (toString n) = some (integer k)) ↔ -2 ^ 63 ≤ n ∧ n < 2 ^ 63 := by
  simp only [ofJson?_eq_integer_iff]
  constructor
  · rintro ⟨k, rfl⟩
    exact ⟨k.le_toInt, k.toInt_lt⟩
  · rintro ⟨hlow, hhigh⟩
    exact ⟨_, Int64.toInt_ofInt_of_le hlow hhigh⟩

theorem exists_ofJson?_eq_unsigned_iff {n : Int} :
    (∃ k, ofJson? (toString n) = some (unsigned k)) ↔ 2 ^ 63 ≤ n ∧ n < 2 ^ 64 := by
  simp only [ofJson?_eq_unsigned_iff]
  constructor
  · rintro ⟨k, rfl, hlow⟩
    exact ⟨hlow, by exact_mod_cast k.toNat_lt⟩
  · rintro ⟨hlow, hhigh⟩
    have hsize : n.toNat < UInt64.size := by
      have hvalue : UInt64.size = 2 ^ 64 := rfl
      omega
    refine ⟨UInt64.ofNat n.toNat, ?_, hlow⟩
    rw [UInt64.toNat_ofNat_of_lt' hsize]
    omega

/-- The numeral of a number that 64 bits hold is a setting whose only value is that numeral. -/
theorem exists_ofJson?_eq_some {n : Int} (hlow : -2 ^ 63 ≤ n) (hhigh : n < 2 ^ 64) :
    ∃ setting, ofJson? (toString n) = some setting ∧ setting.values = [toString n] := by
  rcases lt_or_ge n (2 ^ 63) with hsigned | hunsigned
  · obtain ⟨k, hk⟩ := exists_ofJson?_eq_integer_iff.2 ⟨hlow, hsigned⟩
    obtain rfl := ofJson?_eq_integer_iff.1 hk
    exact ⟨integer k, hk, rfl⟩
  · obtain ⟨k, hk⟩ := exists_ofJson?_eq_unsigned_iff.2 ⟨hunsigned, hhigh⟩
    obtain ⟨rfl, -⟩ := ofJson?_eq_unsigned_iff.1 hk
    exact ⟨unsigned k, hk, rfl⟩

end Setting

/-! ### What is read at a path -/

/-- What is at a path of an element as it is read is at the rest of the path in what it holds. -/
theorem Xml.Element.textsAt_cons_asRead (depth : Nat) (e : Element) (segment : String)
    (rest : List String) :
    (e.asRead depth).textsAt (segment :: rest) =
      ((e.childrenWithTag segment).map (asRead (depth + 1))).flatMap (textsAt rest) := by
  have htags : (fun e : Element => decide (e.tag = segment)) ∘ asRead (depth + 1) =
      fun e => decide (e.tag = segment) := by
    funext e
    rw [Function.comp_apply, tag_asRead]
  rw [textsAt, childrenWithTag, children_asRead, List.filter_map, htags, childrenWithTag]

namespace SettingTree

open Xml

/-- Whatever else a tree holds, its elements, as they are read, have at a path the values that the
tree has there; a branch without elements may come behind them. -/
theorem Sorted.valuesAt_prefix_textsAt {tree : SettingTree} (h : tree.Sorted) (tag : String)
    (path : List String) (depth : Nat) :
    tree.valuesAt path <+:
      ((elements tag tree).map (Element.asRead depth)).flatMap (Element.textsAt path) := by
  induction path generalizing tree tag depth with
  | nil =>
    obtain ⟨values, children⟩ := tree
    have hvalues : ((values.map (Element.leaf tag)).map (Element.asRead depth)).flatMap
        (Element.textsAt []) = values := by
      simp [List.flatMap_map, Element.asRead, Element.textsAt]
    rw [elements, List.map_append, List.flatMap_append, hvalues]
    exact List.prefix_append _ _
  | cons segment rest ih =>
    have hchild := ih (h.child segment) segment (depth + 1)
    cases h with
    | @node values children hascending _ =>
      have hleaves : ((values.map (Element.leaf tag)).map (Element.asRead depth)).flatMap
          (Element.textsAt (segment :: rest)) = [] := by
        simp [List.flatMap_map, Element.asRead, Element.textsAt, Element.childrenWithTag,
          Element.children]
      rw [elements, List.map_append, List.flatMap_append, hleaves, List.nil_append, valuesAt]
      split
      next hnone =>
        have hempty : (SettingTree.node values children).child segment = empty := by
          rw [List.isEmpty_iff.1 hnone]
          rfl
        rw [hempty, valuesAt_empty]
        exact List.nil_prefix
      next =>
        rw [List.map_singleton, List.flatMap_singleton, Element.textsAt_cons_asRead,
          Element.childrenWithTag, Element.children, filter_elementsOfAll hascending]
        exact hchild

end SettingTree

/-- Whatever other settings there are, a document that is not empty is read as an element that has
the values of settings at their paths. -/
theorem Fragment.exists_read?_settings {section? : Option String} {s : Settings}
    (hsection : ∀ tag ∈ section?, Xml.isElementName tag = true)
    (hsome : (settings section? s).value ≠ "") :
    ∃ root, Xml.read? (settings section? s).value = some root ∧
      ∀ path, s.valuesAt path <+: root.textsAt (section?.toList ++ path) := by
  have hne : (SettingTree.ofSettings s).value.children ≠ [] := fun hnone =>
    hsome (settings_eq_empty_iff.2 (SettingTree.children_ofSettings_eq_nil_iff.1 hnone))
  have hnamed := SettingTree.named_elementsOfAll_ofSettings s
  have hprefix : ∀ tag depth path, s.valuesAt path <+:
      ((Xml.Element.branch tag (SettingTree.elementsOfAll
        (SettingTree.ofSettings s).value.children)).asRead depth).textsAt path := by
    intro tag depth path
    have h := (SettingTree.sorted_ofSettings s).valuesAt_prefix_textsAt tag path depth
    rwa [SettingTree.valuesAt_ofSettings, SettingTree.elements_ofSettings hne, List.map_singleton,
      List.flatMap_singleton] at h
  rw [value_settings, if_neg (by simpa using hne)]
  cases section? with
  | none => exact ⟨_, Xml.read?_eq_some_iff.2 (Xml.spells_document hnamed), hprefix _ 0⟩
  | some tag =>
    refine ⟨_, Xml.read?_eq_some_iff.2 (Xml.spells_document
      (List.forall_mem_singleton.2 (.branch (hsection tag rfl) hnamed))), fun path => ?_⟩
    have hinside := Xml.Element.textsAt_cons_asRead 0 (.branch Xml.rootElement
      [.branch tag (SettingTree.elementsOfAll (SettingTree.ofSettings s).value.children)]) tag path
    have hsole : (Xml.Element.branch Xml.rootElement [.branch tag (SettingTree.elementsOfAll
        (SettingTree.ofSettings s).value.children)]).childrenWithTag tag =
          [.branch tag (SettingTree.elementsOfAll
            (SettingTree.ofSettings s).value.children)] := by
      simp [Xml.Element.childrenWithTag, Xml.Element.children, Xml.Element.tag]
    rw [hsole, List.map_singleton, List.flatMap_singleton] at hinside
    exact hinside ▸ hprefix tag 1 path

/-! ### The place of a key -/

/-- An entry that is entered is left out with those of its key. -/
theorem filter_insertEntry {α : Type} {key : String} {p : String × α → Bool}
    (h : ∀ value, p (key, value) = false) (value : α) (entries : List (String × α)) :
    (insertEntry key value entries).filter p = entries.filter p := by
  induction entries with
  | nil => simp [insertEntry, h]
  | cons e rest ih =>
    rw [insertEntry]
    split
    · rw [List.filter_cons_of_neg (by simp [h])]
    · split
      next heq =>
        obtain ⟨k, v⟩ := e
        obtain rfl : key = k := heq
        rw [List.filter_cons_of_neg (by simp [h]), List.filter_cons_of_neg (by simp [h])]
      next => rw [List.filter_cons, List.filter_cons, ih]

namespace Settings

/-- How many values come before those of a key at its path: those of the smaller keys that come to
the same path. -/
def place (s : Settings) (key : String) : Nat :=
  ((s.entries.filter fun e => e.1 < key ∧ IsValidKey e.1 ∧ pathOf e.1 = pathOf key).flatMap
    fun e => e.2.values).length

/-- The place of a key does not depend on its own value. -/
theorem place_insert (s : Settings) (key : String) (setting : Setting) :
    place (s.insert key setting) key = place s key := by
  have hsame : (s.insert key setting).entries = insertEntry key setting s.entries := rfl
  rw [place, hsame, filter_insertEntry fun value => by simp, place]

/-- The value of a key that has one value stands at the place of the key. -/
theorem getElem?_valuesAt {s : Settings} {key : String} {setting : Setting} {text : String}
    (hvalid : IsValidKey key) (hget : s.get? key = some setting)
    (hvalues : setting.values = [text]) :
    (s.valuesAt (pathOf key))[s.place key]? = some text := by
  obtain ⟨before, after, hsplit⟩ := List.append_of_mem ((s.mem_entries_iff key setting).2 hget)
  have hascending := s.ascending
  rw [hsplit] at hascending
  obtain ⟨-, hbehind, hacross⟩ := List.pairwise_append.1 hascending
  have hbefore : ∀ e ∈ before, e.1 < key := fun e he => hacross e he _ List.mem_cons_self
  have hafter : ∀ e ∈ after, ¬e.1 < key := fun e he =>
    String.lt_asymm ((List.pairwise_cons.1 hbehind).1 e he)
  -- only the entries before the key are smaller, so they alone make up its place
  have hplace : s.place key = ((before.filter fun e => IsValidKey e.1 ∧
      pathOf e.1 = pathOf key).flatMap fun e => e.2.values).length := by
    have hsmaller : before.filter (fun e => e.1 < key ∧ IsValidKey e.1 ∧
        pathOf e.1 = pathOf key) =
          before.filter fun e => IsValidKey e.1 ∧ pathOf e.1 = pathOf key :=
      List.filter_congr fun e he => by simp [hbefore e he]
    have hothers : ((key, setting) :: after).filter (fun e => e.1 < key ∧ IsValidKey e.1 ∧
        pathOf e.1 = pathOf key) = [] :=
      List.filter_eq_nil_iff.2 <| List.forall_mem_cons.2
        ⟨by simp, fun e he => by simp [hafter e he]⟩
    rw [place, hsplit, List.filter_append, hsmaller, hothers, List.append_nil]
  rw [valuesAt, hsplit, List.filter_append, List.flatMap_append, hplace,
    List.getElem?_append_right (Nat.le_refl _), Nat.sub_self,
    List.filter_cons_of_pos (by simp [hvalid]), List.flatMap_cons, hvalues]
  rfl

end Settings

/-! ### Whole numbers in documents -/

namespace Fragment

/-- At the place of a key a document has an element with the given text. -/
def HasLeaf (section? : Option String) (s : Settings) (key text content : String) : Prop :=
  ∃ root, Xml.read? content = some root ∧
    (root.textsAt (section?.toList ++ Settings.pathOf key))[s.place key]? = some text

variable {section? : Option String} {s : Settings} {key text content : String}

/-- Where the element of a key is does not depend on the value of the key. -/
theorem hasLeaf_insert_iff {setting : Setting} :
    HasLeaf section? (s.insert key setting) key text content ↔
      HasLeaf section? s key text content := by
  rw [HasLeaf, HasLeaf, Settings.place_insert]

theorem HasLeaf.text_unique {other : String} (h : HasLeaf section? s key text content)
    (hother : HasLeaf section? s key other content) : text = other := by
  obtain ⟨root, hroot, htext⟩ := h
  obtain ⟨root', hroot', htext'⟩ := hother
  obtain rfl := Option.some.inj (hroot.symm.trans hroot')
  exact Option.some.inj (htext.symm.trans htext')

/-- Settings with a valid key have a document, where the one value of the key is a leaf. -/
theorem hasLeaf_settings {setting : Setting}
    (hsection : ∀ tag ∈ section?, Xml.isElementName tag = true) (hvalid : Settings.IsValidKey key)
    (hget : s.get? key = some setting) (hvalues : setting.values = [text]) :
    (settings section? s).value ≠ "" ∧ HasLeaf section? s key text (settings section? s).value := by
  have hne : (settings section? s).value ≠ "" := fun hempty =>
    settings_eq_empty_iff.1 hempty key ((s.mem_keys_iff key).2 ⟨setting, hget⟩) hvalid
  obtain ⟨root, hroot, hprefix⟩ := exists_read?_settings hsection hne
  have hplace := Settings.getElem?_valuesAt hvalid hget hvalues
  obtain ⟨behind, htexts⟩ := hprefix (Settings.pathOf key)
  refine ⟨hne, root, hroot, ?_⟩
  rw [← htexts, List.getElem?_append_left (List.getElem?_eq_some_iff.1 hplace).1, hplace]

end Fragment

theorem Bundle.isElementName_of_mem_settingsFiles {c : Configuration} :
    ∀ f ∈ settingsFiles c, ∀ tag ∈ f.2.1, Xml.isElementName tag = true := by
  simp only [settingsFiles, List.forall_mem_cons]
  exact ⟨by decide, by decide, by decide, by decide, by simp⟩

namespace Setting

/-- Whole numbers are exact from the numeral in a JSON text to the numeral in a file. The numeral
of `n` is read as a signed setting exactly if a signed word of 64 bits holds `n`, and as an unsigned
one exactly if only an unsigned word does. If one of them does, then in each of the files that are
written from settings, whatever else is there, a valid key with that setting has a leaf whose text
is the numeral of `n`; and no other number in its place gives the same document. -/
theorem integers_exact (n : Int) :
    ((∃ k, ofJson? (toString n) = some (integer k)) ↔ -2 ^ 63 ≤ n ∧ n < 2 ^ 63) ∧
    ((∃ k, ofJson? (toString n) = some (unsigned k)) ↔ 2 ^ 63 ≤ n ∧ n < 2 ^ 64) ∧
    (-2 ^ 63 ≤ n → n < 2 ^ 64 → ∃ setting, ofJson? (toString n) = some setting ∧
      (∀ installation inNamespace spec t filename section? s key,
        (filename, section?, s) ∈ Bundle.settingsFiles spec.configuration →
        Settings.IsValidKey key → s.get? key = some setting →
        ∃ content, (Bundle.compose installation inNamespace spec t).value.files.get? filename =
            some content ∧
          Fragment.HasLeaf section? s key (toString n) content) ∧
      ∀ m other section? (s : Settings) key, -2 ^ 63 ≤ m → m < 2 ^ 64 → m ≠ n →
        ofJson? (toString m) = some other →
        (∀ tag ∈ section?, Xml.isElementName tag = true) → Settings.IsValidKey key →
        (Fragment.settings section? (s.insert key other)).value ≠
          (Fragment.settings section? (s.insert key setting)).value) := by
  refine ⟨exists_ofJson?_eq_integer_iff, exists_ofJson?_eq_unsigned_iff, fun hlow hhigh => ?_⟩
  obtain ⟨setting, hjson, hvalues⟩ := exists_ofJson?_eq_some hlow hhigh
  refine ⟨setting, hjson, ?file, ?apart⟩
  case file =>
    intro installation inNamespace spec t filename section? s key hfile hvalid hget
    have hsection := Bundle.isElementName_of_mem_settingsFiles _ hfile
    obtain ⟨hne, hleaf⟩ := Fragment.hasLeaf_settings hsection hvalid hget hvalues
    exact ⟨_, Bundle.get?_files_compose (Bundle.mem_fragments_of_mem_settingsFiles hfile) hne,
      hleaf⟩
  case apart =>
    intro m other section? s key hlow' hhigh' hne hother hsection hvalid hsame
    obtain ⟨other', hjson', hvalues'⟩ := exists_ofJson?_eq_some hlow' hhigh'
    obtain rfl := Option.some.inj (hother.symm.trans hjson')
    have hleaf := (Fragment.hasLeaf_settings hsection hvalid
      (s.get?_insert_self key setting) hvalues).2
    have hleaf' := (Fragment.hasLeaf_settings hsection hvalid
      (s.get?_insert_self key other) hvalues').2
    -- the leaves of the two numbers have one place in one document
    rw [Fragment.hasLeaf_insert_iff] at hleaf hleaf'
    rw [hsame] at hleaf'
    have hnumeral := Json.word?_numeral_iff.2 ⟨Eq.refl m, hlow', hhigh'⟩
    rw [hleaf'.text_unique hleaf] at hnumeral
    exact hne (Json.word?_numeral_iff.1 hnumeral).1

/-- A quota with the largest number, where a list comes to the same path before it. -/
def quotasAtLimit : Settings :=
  .ofList [("/a//b", .list ["<&>", ""]), ("a/b", .unsigned 18446744073709551615)]

/-- The two largest numbers, which are one number as doubles, give different documents. -/
theorem integers_exact_atLimit :
    ofJson? (toString (2 ^ 64 - 1 : Int)) = some (.unsigned 18446744073709551615) ∧
    ofJson? (toString (2 ^ 64 - 2 : Int)) = some (.unsigned 18446744073709551614) ∧
    (∀ installation inNamespace t, ∃ content root,
      (Bundle.compose installation inNamespace
          { Spec.empty with configuration := { Configuration.empty with quotas := quotasAtLimit } }
          t).value.files.get? "quotas.xml" = some content ∧
        Xml.read? content = some root ∧
        (root.textsAt ["quotas", "a", "b"])[2]? = some "18446744073709551615") ∧
    (Fragment.settings (some "quotas")
        (quotasAtLimit.insert "a/b" (.unsigned 18446744073709551614))).value ≠
      (Fragment.settings (some "quotas")
        (quotasAtLimit.insert "a/b" (.unsigned 18446744073709551615))).value := by
  have hlargest : ofJson? (toString (2 ^ 64 - 1 : Int)) = some (.unsigned 18446744073709551615) :=
    ofJson?_eq_unsigned_iff.2 (by decide)
  have hnext : ofJson? (toString (2 ^ 64 - 2 : Int)) = some (.unsigned 18446744073709551614) :=
    ofJson?_eq_unsigned_iff.2 (by decide)
  obtain ⟨-, -, hexact⟩ := integers_exact (2 ^ 64 - 1)
  obtain ⟨setting, hsetting, hfile, hapart⟩ := hexact (by decide) (by decide)
  obtain rfl := Option.some.inj (hlargest.symm.trans hsetting)
  refine ⟨hlargest, hnext, fun installation inNamespace t => ?_, ?_⟩
  · obtain ⟨content, hcontent, root, hroot, hleaf⟩ := hfile installation inNamespace
      { Spec.empty with configuration := { Configuration.empty with quotas := quotasAtLimit } }
      t "quotas.xml" (some "quotas") quotasAtLimit "a/b" (by decide) (by decide) rfl
    exact ⟨content, root, hcontent, hroot, hleaf⟩
  · exact hapart _ _ _ _ _ (by decide) (by decide) (by decide) hnext (by decide) (by decide)

end Setting

end ShardManifest
