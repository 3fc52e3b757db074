import ShardManifest.Xml.Escape

/-!
# Character data and element names

Character data does not open a tag, and every ampersand in it begins a predefined entity. Whatever a
text holds, it is written as character data, and the text is what the entities stand for. An element
name has no character that could end a tag.

## Main definitions

- `Xml.entities`, `Xml.isCharacterData`: the data that may stand between two tags
- `Xml.unescape`: the text behind character data
- `Xml.isBlank`: the characters that may stand between elements

## Main results

- `Xml.isCharacterData_iff`: character data in terms of its tags and ampersands
- `Xml.unescape_escape`, `Xml.isCharacterData_escape`: every text is written as character data
- `Xml.escape_lossless`: nothing of a text is lost, and nothing of it can be taken for markup
- `Xml.isElementName_iff`: the characters of an element name
-/

namespace ShardManifest.Xml

/-- What may follow an ampersand. -/
def entities : List String := ["amp;", "lt;", "gt;", "quot;", "apos;"]

/-- Whether data opens no tag and has no ampersand that does not begin an entity. -/
def isCharacterData : List Char → Bool
  | [] => true
  | c :: rest =>
    c != '<' && (c != '&' || entities.any fun e => e.toList.isPrefixOf rest) && isCharacterData rest

/-- Replaces each predefined entity by its character, from left to right. -/
def unescapeChars : List Char → List Char
  | '&' :: 'a' :: 'm' :: 'p' :: ';' :: rest => '&' :: unescapeChars rest
  | '&' :: 'l' :: 't' :: ';' :: rest => '<' :: unescapeChars rest
  | '&' :: 'g' :: 't' :: ';' :: rest => '>' :: unescapeChars rest
  | '&' :: 'q' :: 'u' :: 'o' :: 't' :: ';' :: rest => '"' :: unescapeChars rest
  | '&' :: 'a' :: 'p' :: 'o' :: 's' :: ';' :: rest => '\'' :: unescapeChars rest
  | c :: rest => c :: unescapeChars rest
  | [] => []

def unescape (data : String) : String :=
  String.ofList (unescapeChars data.toList)

/-- White space. -/
def isBlank (c : Char) : Bool := c = ' ' || c = '\t' || c = '\n' || c = '\r'

theorem isCharacterData_cons_iff {c : Char} {rest : List Char} :
    isCharacterData (c :: rest) = true ↔
      c ≠ '<' ∧ (c = '&' → ∃ e ∈ entities, e.toList <+: rest) ∧ isCharacterData rest = true := by
  simp [isCharacterData, and_assoc, Decidable.imp_iff_not_or]

/-- Data is character data when no tag opens in it and every ampersand begins an entity. -/
theorem isCharacterData_iff {data : List Char} :
    isCharacterData data = true ↔
      '<' ∉ data ∧
        ∀ before after, data = before ++ '&' :: after → ∃ e ∈ entities, e.toList <+: after := by
  induction data with
  | nil => simp [isCharacterData]
  | cons c rest ih =>
    rw [isCharacterData_cons_iff, ih, List.mem_cons, not_or]
    constructor
    · rintro ⟨hc, hentity, hrest, hentities⟩
      refine ⟨⟨Ne.symm hc, hrest⟩, fun before after hsplit => ?_⟩
      cases before with
      | nil =>
        obtain ⟨rfl, rfl⟩ := List.cons.inj hsplit
        exact hentity rfl
      | cons _ before => exact hentities before after (List.cons.inj hsplit).2
    · rintro ⟨⟨hc, hrest⟩, hentities⟩
      refine ⟨Ne.symm hc, fun hamp => hentities [] rest (by rw [hamp]; rfl), hrest, ?_⟩
      rintro before after rfl
      exact hentities (c :: before) after rfl

theorem isCharacterData_append {a b : List Char} (ha : isCharacterData a = true)
    (hb : isCharacterData b = true) : isCharacterData (a ++ b) = true := by
  induction a with
  | nil => exact hb
  | cons c a ih =>
    obtain ⟨hc, hentity, ha⟩ := isCharacterData_cons_iff.1 ha
    refine isCharacterData_cons_iff.2 ⟨hc, fun hamp => ?_, ih ha⟩
    obtain ⟨e, he, hprefix⟩ := hentity hamp
    exact ⟨e, he, hprefix.trans (List.prefix_append _ _)⟩

theorem ne_of_isBlank {c : Char} (h : isBlank c = true) : c ≠ '<' ∧ c ≠ '&' := by
  constructor <;> rintro rfl <;> exact absurd h (by decide)

theorem isCharacterData_of_blank {data : List Char} (h : data.all isBlank = true) :
    isCharacterData data = true := by
  have hblank := List.all_eq_true.1 h
  refine isCharacterData_iff.2 ⟨fun hlt => (ne_of_isBlank (hblank _ hlt)).1 rfl, ?_⟩
  rintro before after rfl
  exact absurd rfl (ne_of_isBlank (hblank '&' (by simp))).2

/-! ### Escaping -/

theorem unescapeChars_cons {c : Char} (h : c ≠ '&') (rest : List Char) :
    unescapeChars (c :: rest) = c :: unescapeChars rest := by
  simp [unescapeChars, h]

theorem unescape_of_blank {text : String} (h : text.toList.all isBlank = true) :
    unescape text = text := by
  have hchars : ∀ l : List Char, (∀ c ∈ l, c ≠ '&') → unescapeChars l = l := by
    intro l hl
    induction l with
    | nil => rfl
    | cons c l ih =>
      obtain ⟨hc, hl⟩ := List.forall_mem_cons.1 hl
      rw [unescapeChars_cons hc, ih hl]
  rw [unescape, hchars _ fun c hc => (ne_of_isBlank (List.all_eq_true.1 h c hc)).2,
    String.ofList_toList]

/-- What a character is written as is read as that character, whatever follows. -/
theorem unescapeChars_escapeChar (c : Char) (rest : List Char) :
    unescapeChars (escapeChar c ++ rest) = c :: unescapeChars rest := by
  unfold escapeChar
  split
  case h_6 hamp _ _ _ _ => exact unescapeChars_cons hamp rest
  all_goals rfl

theorem isCharacterData_escapeChar (c : Char) : isCharacterData (escapeChar c) = true := by
  unfold escapeChar
  split
  case h_6 hamp hlt _ _ _ =>
    exact isCharacterData_cons_iff.2 ⟨hlt, fun h => absurd h hamp, rfl⟩
  all_goals decide

/-- Every text is read back from what it is written as. -/
theorem unescape_escape (text : String) : unescape (escape text) = text := by
  have hchars : ∀ l : List Char, unescapeChars (l.flatMap escapeChar) = l := by
    intro l
    induction l with
    | nil => rfl
    | cons c l ih => rw [List.flatMap_cons, unescapeChars_escapeChar, ih]
  rw [unescape, escape, String.toList_ofList, hchars, String.ofList_toList]

/-- Every text is written as character data. -/
theorem isCharacterData_escape (text : String) : isCharacterData (escape text).toList = true := by
  rw [escape, String.toList_ofList]
  induction text.toList with
  | nil => rfl
  | cons c l ih =>
    rw [List.flatMap_cons]
    exact isCharacterData_append (isCharacterData_escapeChar c) ih

theorem escape_append (a b : String) : escape (a ++ b) = escape a ++ escape b := by
  rw [escape, escape, escape, String.toList_append, List.flatMap_append, String.ofList_append]

/-- A text of characters that are written as they are is written as it is. -/
theorem escape_eq_self {text : String} (h : ∀ c ∈ text.toList, escapeChar c = [c]) :
    escape text = text := by
  rw [escape, List.flatMap_def, List.map_congr_left h, ← List.flatMap_def, List.flatMap_singleton',
    String.ofList_toList]

theorem escapeChar_ne_nil (c : Char) : escapeChar c ≠ [] := by
  unfold escapeChar
  split <;> exact List.cons_ne_nil _ _

/-- The characters that are not written as they are. -/
theorem escapeChar_eq_singleton_iff {c : Char} :
    escapeChar c = [c] ↔ c ∉ ['&', '<', '>', '"', '\''] := by
  unfold escapeChar
  split
  case h_6 => simp_all
  all_goals decide

/-- An entity has none of the characters that could end or begin markup. -/
theorem not_mem_escapeChar {special : Char} (h : special ∈ ['<', '>', '"', '\'']) (c : Char) :
    special ∉ escapeChar c := by
  simp only [List.mem_cons, List.not_mem_nil, or_false] at h
  unfold escapeChar
  split
  case h_6 =>
    rw [List.mem_singleton]
    rintro rfl
    simp_all
  all_goals rcases h with rfl | rfl | rfl | rfl <;> decide

theorem not_mem_escape {special : Char} (h : special ∈ ['<', '>', '"', '\'']) (text : String) :
    special ∉ (escape text).toList := by
  rw [escape, String.toList_ofList]
  intro hmem
  obtain ⟨c, -, hc⟩ := List.mem_flatMap.1 hmem
  exact not_mem_escapeChar h c hc

theorem length_le_length_flatMap {α β : Type} {f : α → List β} (hf : ∀ a, f a ≠ []) (l : List α) :
    l.length ≤ (l.flatMap f).length := by
  induction l with
  | nil => exact Nat.zero_le _
  | cons a l ih =>
    have hpiece := List.length_pos_iff.2 (hf a)
    rw [List.flatMap_cons, List.length_append, List.length_cons]
    omega

/-- Where every item becomes something, a row that is left as it is has its items left as they
are. -/
theorem eq_singleton_of_flatMap_eq_self {α : Type} {f : α → List α} (hf : ∀ a, f a ≠ [])
    {l : List α} (h : l.flatMap f = l) : ∀ a ∈ l, f a = [a] := by
  induction l with
  | nil => simp
  | cons a l ih =>
    rw [List.flatMap_cons] at h
    have hpiece := List.length_pos_iff.2 (hf a)
    have hrest := length_le_length_flatMap hf l
    -- the rest cannot become shorter, so there is room for one item in front of it
    have hone : (f a).length = [a].length := by
      have hlength := congrArg List.length h
      rw [List.length_append, List.length_cons] at hlength
      rw [List.length_singleton]
      omega
    obtain ⟨hfirst, hkept⟩ := List.append_inj (h.trans List.singleton_append.symm) hone
    exact List.forall_mem_cons.2 ⟨hfirst, ih hkept⟩

theorem escape_eq_self_iff {text : String} :
    escape text = text ↔ ∀ c ∈ ['&', '<', '>', '"', '\''], c ∉ text.toList := by
  have hkept : escape text = text ↔ ∀ c ∈ text.toList, escapeChar c = [c] := by
    refine ⟨fun h => ?_, escape_eq_self⟩
    have hlist := congrArg String.toList h
    rw [escape, String.toList_ofList] at hlist
    exact eq_singleton_of_flatMap_eq_self escapeChar_ne_nil hlist
  rw [hkept]
  constructor
  · intro h special hspecial hmem
    exact escapeChar_eq_singleton_iff.1 (h special hmem) hspecial
  · intro h c hc
    exact escapeChar_eq_singleton_iff.2 fun hspecial => h c hspecial hc

/-- Escaping loses nothing and is safe. When each of the five entities is replaced by its character,
from left to right, the text is there again, whatever entities it has itself. What is written has no
character of markup, and an ampersand only where an entity begins. Texts are written one after the
other, and a text is written as it is exactly if it has none of the five characters. -/
theorem escape_lossless (text : String) :
    unescape (escape text) = text ∧
    (∀ c ∈ ['<', '>', '"', '\''], c ∉ (escape text).toList) ∧
    (∀ before after, (escape text).toList = before ++ '&' :: after →
      ∃ e ∈ ["amp;", "lt;", "gt;", "quot;", "apos;"], e.toList <+: after) ∧
    (∀ more, escape (text ++ more) = escape text ++ escape more) ∧
    (escape text = text ↔ ∀ c ∈ ['&', '<', '>', '"', '\''], c ∉ text.toList) := by
  refine ⟨unescape_escape text, fun c hc => not_mem_escape hc text, ?entities,
    escape_append text, escape_eq_self_iff⟩
  case entities => exact (isCharacterData_iff.1 (isCharacterData_escape text)).2

example : unescape (escape "&amp;lt; & \"<'>\"") = "&amp;lt; & \"<'>\"" := by decide

/-! ### Element names -/

theorem isElementName_iff {name : String} :
    isElementName name = true ↔
      ∃ first rest, name.toList = first :: rest ∧ isNameStart first = true ∧
        ∀ c ∈ rest, isNameChar c = true := by
  rw [isElementName]
  cases hname : name.toList with
  | nil => simp
  | cons first rest =>
    simp only [Bool.and_eq_true, List.all_eq_true]
    constructor
    · rintro ⟨hfirst, hrest⟩
      exact ⟨first, rest, rfl, hfirst, hrest⟩
    · rintro ⟨_, _, heq, hfirst, hrest⟩
      obtain ⟨rfl, rfl⟩ := List.cons.inj heq
      exact ⟨hfirst, hrest⟩

theorem isElementName_append {name more : String} (h : isElementName name = true)
    (hmore : more.toList.all isNameChar = true) : isElementName (name ++ more) = true := by
  obtain ⟨first, rest, hname, hfirst, hrest⟩ := isElementName_iff.1 h
  refine isElementName_iff.2 ⟨first, rest ++ more.toList, ?_, hfirst, fun c hc => ?_⟩
  · rw [String.toList_append, hname, List.cons_append]
  · rcases List.mem_append.1 hc with hc | hc
    · exact hrest c hc
    · exact List.all_eq_true.1 hmore c hc

/-- Only what may stand in a name stands in an element name. -/
theorem not_mem_of_isElementName {name : String} {c : Char} (h : isElementName name = true)
    (hc : isNameStart c = false ∧ isNameChar c = false) : c ∉ name.toList := by
  obtain ⟨first, rest, hname, hfirst, hrest⟩ := isElementName_iff.1 h
  rw [hname, List.mem_cons]
  rintro (rfl | hmem)
  · simp [hfirst] at hc
  · simp [hrest c hmem] at hc

end ShardManifest.Xml
