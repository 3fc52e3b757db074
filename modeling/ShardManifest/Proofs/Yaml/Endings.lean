import Mathlib.Data.List.Basic
import ShardManifest.Proofs.Numerals
import ShardManifest.Proofs.Yaml.Blocks

/-!
# How printed documents end

A printed document ends in the end of its last line. That is a line feed, except where the document
ends with a text that is written as a literal block and has a break of its own at its end.

## Main definitions

- `Document.finalText?`: the text that a document ends with
- `Yaml.Overhangs`: a text is written as a literal block that ends in a break of its own
- `Document.Overhangs`: a document ends with such a text

## Main results

- `Yaml.getLast?_print`: the last character of a printed document
- `Yaml.closed_feed_print_iff`: which printed documents end in a line feed
-/

namespace ShardManifest

mutual

/-- The text that a document ends with, if its last scalar is one. -/
def Document.finalText? : Document → Option String
  | .text s => some s
  | .list items => Document.finalTextOfItems? items
  | .mapping members => Document.finalTextOfMembers? members
  | _ => none

def Document.finalTextOfItems? : List Document → Option String
  | [] => none
  | [item] => item.finalText?
  | _ :: rest => Document.finalTextOfItems? rest

def Document.finalTextOfMembers? : List (String × Document) → Option String
  | [] => none
  | [(_, value)] => value.finalText?
  | _ :: rest => Document.finalTextOfMembers? rest

end

theorem Document.finalText?_mapping_concat (members : List (String × Document)) (key : String)
    (value : Document) : (mapping (members ++ [(key, value)])).finalText? = value.finalText? := by
  rw [finalText?]
  induction members with
  | nil => rfl
  | cons m members ih =>
    cases members with
    | nil => rfl
    | cons next members => exact ih

namespace Yaml

variable {cs xs : List Char}

/-- The end of the last line of a text, which is a line feed if the text has none of its own. -/
def lastBreak (cs : List Char) : Char :=
  match cs.getLast? with
  | some c => if isBreak c then c else '\n'
  | none => '\n'

theorem isBreak_lastBreak (cs : List Char) : isBreak (lastBreak cs) = true := by
  rw [lastBreak]
  split
  · split
    next h => exact h
    next => rfl
  · rfl

theorem getLast?_endLine (cs : List Char) : (endLine cs).getLast? = some (lastBreak cs) := by
  rw [endLine, lastBreak]
  cases hlast : cs.getLast? with
  | none => rfl
  | some c => cases hbreak : isBreak c <;> simp [hbreak, hlast]

theorem lastBreak_endLine (cs : List Char) : lastBreak (endLine cs) = lastBreak cs := by
  rw [lastBreak, getLast?_endLine]
  exact if_pos (isBreak_lastBreak cs)

theorem endLine_ne_nil (cs : List Char) : endLine cs ≠ [] := by
  intro h
  have hlast := getLast?_endLine cs
  rw [h] at hlast
  cases hlast

theorem lastBreak_nest (b : Bool) (cs : List Char) : lastBreak (nest b cs) = lastBreak cs := by
  rw [lastBreak, getLast?_nest, lastBreak]

theorem lastBreak_of_unbroken (h : Unbroken cs) : lastBreak cs = '\n' := by
  rw [lastBreak]
  split
  next c hc => simp [h c (List.mem_of_getLast? hc)]
  next => rfl

theorem lastBreak_append_of_ne_nil (xs : List Char) (h : cs ≠ []) :
    lastBreak (xs ++ cs) = lastBreak cs := by
  rw [lastBreak, List.getLast?_append_of_ne_nil xs h, lastBreak]

theorem lastBreak_append (h : lastBreak xs = '\n') (cs : List Char) :
    lastBreak (xs ++ cs) = lastBreak cs := by
  by_cases hcs : cs = []
  · rw [hcs, List.append_nil, h]
    rfl
  · exact lastBreak_append_of_ne_nil xs hcs

/-! ### Scalars -/

theorem Unbroken.of_subset (h : Unbroken xs) (hsubset : cs ⊆ xs) : Unbroken cs :=
  fun c hc => h c (hsubset hc)

theorem isBreak_eq_false_of_isDigit {c : Char} (h : c.isDigit = true) : isBreak c = false := by
  rw [Bool.eq_false_iff]
  intro hbreak
  rcases isBreak_iff.1 hbreak with rfl | rfl | rfl | rfl | rfl <;> revert h <;> decide

theorem unbroken_toDigits (n : Nat) : Unbroken (Nat.toDigits 10 n) := by
  intro c hc
  exact isBreak_eq_false_of_isDigit (isDigit_of_mem_toDigits hc)

theorem unbroken_toString_int (n : Int) : Unbroken (toString n).toList := by
  cases n with
  | ofNat n =>
    rw [toList_toString_ofNat]
    exact unbroken_toDigits n
  | negSucc n =>
    rw [toList_toString_negSucc]
    exact (unbroken_toDigits _).cons rfl

theorem unbroken_zeros (n : Nat) : Unbroken (NumberStyle.zeros n) := by
  intro c hc
  rw [List.eq_of_mem_replicate hc]
  rfl

theorem unbroken_positionalText {digits : List Char} (h : Unbroken digits) (exponent : Int) :
    Unbroken (yamlNumbers.positionalText digits exponent) := by
  have hmark : Unbroken yamlNumbers.wholeMark.toList := unbroken_of_all (by decide)
  rw [NumberStyle.positionalText]
  refine unbroken_ite ((h.append (unbroken_zeros _)).append hmark) (unbroken_ite ?_ ?_)
  · have hwhole := h.of_subset (List.take_subset (digits.length + exponent).toNat digits)
    have hrest := h.of_subset (List.drop_subset (digits.length + exponent).toNat digits)
    exact hwhole.append (hrest.cons rfl)
  · exact (((unbroken_zeros _).append h).cons rfl).cons rfl

theorem unbroken_exponentText {digits : List Char} (h : Unbroken digits) (exponent : Int) :
    Unbroken (NumberStyle.exponentText digits exponent) := by
  have hpower := (unbroken_toString_int (digits.length + exponent - 1)).cons (c := 'e') rfl
  rw [NumberStyle.exponentText.eq_def]
  split
  next => exact h
  next first => exact hpower.cons (h first List.mem_cons_self)
  next first rest _ =>
    have hrest : Unbroken rest := h.of_subset (List.subset_cons_self first rest)
    exact ((hrest.append hpower).cons rfl).cons (h first List.mem_cons_self)

theorem unbroken_decimalText (d : Decimal) : Unbroken (yamlNumbers.decimalText d) := by
  have hwritten : Unbroken ((Nat.toDigits 10 d.digits).reverse.dropWhile (· = '0')).reverse := by
    refine (unbroken_toDigits d.digits).of_subset fun c hc => ?_
    have hmem := (List.dropWhile_sublist _).subset (List.mem_reverse.1 hc)
    exact List.mem_reverse.1 hmem
  exact unbroken_ite (unbroken_positionalText hwritten _) (unbroken_exponentText hwritten _)

theorem unbroken_float (x : Binary64) : Unbroken (x.text yamlNumbers).toList := by
  have hsign : Unbroken (if x.isNegative then "-" else "").toList := by
    split <;> exact unbroken_of_all (by decide)
  have hnan : Unbroken yamlNumbers.nan.toList := unbroken_of_all (by decide)
  have hinfinity : Unbroken yamlNumbers.infinity.toList := unbroken_of_all (by decide)
  have hzero : Unbroken ("0".toList ++ yamlNumbers.wholeMark.toList) := unbroken_of_all (by decide)
  rw [Binary64.text]
  split
  · exact hnan
  · split
    · rw [String.toList_append]
      exact hsign.append hinfinity
    · split
      · rw [String.toList_append, String.toList_append, List.append_assoc]
        exact hsign.append hzero
      · rw [String.toList_append, String.toList_ofList]
        exact hsign.append (unbroken_decimalText _)

/-- A text is written as a literal block and ends in a break that is no line feed. -/
def Overhangs (s : String) : Prop :=
  formOf s = .literal ∧
    (s.toList.getLast? = some lineSeparator ∨ s.toList.getLast? = some paragraphSeparator)

instance (s : String) : Decidable (Overhangs s) := inferInstanceAs (Decidable (_ ∧ _))

theorem lastBreak_append_feed (pre cs : List Char) :
    lastBreak (pre ++ '\n' :: cs) = lastBreak cs := by
  have hfeed : lastBreak (pre ++ ['\n']) = '\n' := by
    rw [lastBreak, List.getLast?_concat]
    rfl
  rw [List.append_cons, lastBreak_append hfeed]

theorem lastBreak_concat {c : Char} (h : isBreak c = false) (cs : List Char) :
    lastBreak (cs ++ [c]) = '\n' := by
  rw [lastBreak, List.getLast?_concat]
  simp [h]

theorem isPrintable_of_literal {s : String} (h : formOf s = .literal) :
    ∀ c ∈ s.toList, isPrintable c = true := by
  simp only [formOf] at h
  split at h
  next =>
    split at h
    next hfits =>
      simp only [fitsLiteral, Bool.and_eq_true, List.all_eq_true] at hfits
      exact hfits.1.1
    next => cases h
  -- without a line feed a text has one of the other three forms
  next => split at h <;> (try split at h) <;> cases h

theorem unbroken_of_plain {s : String} (h : formOf s = .plain) : Unbroken s.toList := by
  simp only [formOf] at h
  split at h
  next => split at h <;> cases h
  next =>
    split at h
    next hplain =>
      simp only [fitsPlain, Bool.and_eq_true, Bool.not_eq_true', List.any_eq_false] at hplain
      obtain ⟨-, ⟨⟨⟨⟨-, hany⟩, -⟩, -⟩, -⟩, -⟩ := hplain
      simpa [Unbroken] using hany
    next => split at h <;> cases h

/-- The breaks that a literal block can hold are line feeds and the two separators. -/
theorem eq_of_isBreak_of_isPrintable {c : Char} (hbreak : isBreak c = true)
    (hprintable : isPrintable c = true) :
    c = '\n' ∨ c = lineSeparator ∨ c = paragraphSeparator := by
  rcases isBreak_iff.1 hbreak with rfl | rfl | rfl | rfl | rfl
  · exact .inl rfl
  · revert hprintable
    decide
  · revert hprintable
    decide
  · exact .inr (.inl rfl)
  · exact .inr (.inr rfl)

theorem lastBreak_ne_feed_iff (h : ∀ c ∈ cs, isPrintable c = true) :
    lastBreak cs ≠ '\n' ↔
      cs.getLast? = some lineSeparator ∨ cs.getLast? = some paragraphSeparator := by
  rw [lastBreak]
  cases hlast : cs.getLast? with
  | none => simp
  | some c =>
    have hprintable := h c (List.mem_of_getLast? hlast)
    cases hbreak : isBreak c with
    | false =>
      have hline : c ≠ lineSeparator := by
        rintro rfl
        cases hbreak
      have hparagraph : c ≠ paragraphSeparator := by
        rintro rfl
        cases hbreak
      simp [hbreak, hline, hparagraph]
    | true =>
      have hcases := eq_of_isBreak_of_isPrintable hbreak hprintable
      have hfeed : '\n' ≠ lineSeparator ∧ '\n' ≠ paragraphSeparator := by decide
      rcases hcases with rfl | rfl | rfl
      · simp [isBreak, hfeed]
      · simp [hbreak, hfeed.1.symm]
      · simp [hbreak, hfeed.2.symm]

theorem lastBreak_scalarText_of_literal {s : String} (h : formOf s = .literal) :
    lastBreak (scalarText s) = lastBreak s.toList := by
  rw [scalarText, h]
  exact lastBreak_append_feed ('|' :: (indentHint s.toList ++ chompHint s.toList)) s.toList

theorem lastBreak_scalarText_of_ne_literal {s : String} (h : formOf s ≠ .literal) :
    lastBreak (scalarText s) = '\n' := by
  rw [scalarText]
  cases hform : formOf s with
  | plain => exact lastBreak_of_unbroken (unbroken_of_plain hform)
  | singleQuoted => exact lastBreak_concat rfl ('\'' :: _)
  | doubleQuoted => exact lastBreak_concat rfl ('"' :: _)
  | literal => exact absurd hform h

/-- Of scalars only literal blocks can have a break of their own at their end. -/
theorem lastBreak_scalarText_ne_feed_iff {s : String} :
    lastBreak (scalarText s) ≠ '\n' ↔ Overhangs s := by
  rw [Overhangs]
  by_cases hform : formOf s = .literal
  · rw [lastBreak_scalarText_of_literal hform,
      lastBreak_ne_feed_iff (isPrintable_of_literal hform)]
    simp [hform]
  · simp [lastBreak_scalarText_of_ne_literal hform, hform]

/-! ### Collections -/

theorem lastBreak_behind {mark : String} (h : Marked mark.toList) (cs : List Char) :
    lastBreak (behind mark cs) = lastBreak cs := by
  rw [behind, lastBreak_endLine, lastBreak_append (lastBreak_of_unbroken h.unbroken),
    lastBreak_nest]

/-- A member ends as its value does. -/
theorem lastBreak_memberText (key : String) (value : Document) (cs : List Char) :
    lastBreak (memberText key value cs) = lastBreak cs := by
  cases hkey : isSimpleKey key with
  | false =>
    rw [memberText.eq_def, if_neg (by simp [hkey])]
    have hne : behind ": " cs ≠ [] := endLine_ne_nil _
    rw [lastBreak_append_of_ne_nil _ hne, lastBreak_behind marked_value]
  | true =>
    rw [memberText.eq_def, if_pos hkey]
    split
    · rw [List.append_cons, lastBreak_append_feed]
    · rw [List.append_cons, lastBreak_append_feed, lastBreak_nest]
    · have hmark : Unbroken (scalarText key ++ [':'] ++ [' ']) :=
        ((marked_name hkey).append (unbroken_singleton rfl)).unbroken
      rw [lastBreak_endLine, List.append_cons, List.append_cons,
        lastBreak_append (lastBreak_of_unbroken hmark), lastBreak_nest]

theorem itemsText_cons_ne_nil (item : Document) (rest : List Document) :
    itemsText (item :: rest) ≠ [] := by
  simp [itemsText, behind, endLine_ne_nil]

theorem membersText_cons_ne_nil (m : String × Document) (rest : List (String × Document)) :
    membersText (m :: rest) ≠ [] := by
  obtain ⟨key, value⟩ := m
  rw [membersText, memberText.eq_def]
  split
  · split <;> simp [endLine_ne_nil]
  · simp [behind, endLine_ne_nil]

/-- The end of the last line of a document, given the text that it ends with. -/
def endOf (final? : Option String) : Char := final?.elim '\n' fun s => lastBreak (scalarText s)

mutual

/-- A document ends as its final scalar does. -/
theorem lastBreak_text : ∀ d : Document, lastBreak (text d) = endOf d.finalText?
  | .null => rfl
  | .bool true => rfl
  | .bool false => rfl
  | .integer n => lastBreak_of_unbroken (unbroken_toString_int n)
  | .float x => lastBreak_of_unbroken (unbroken_float x)
  | .text _ => rfl
  | .list [] => rfl
  | .list (item :: items) => by
    rw [text, Document.finalText?]
    · exact lastBreak_itemsText (item :: items)
    · simp
  | .mapping [] => rfl
  | .mapping (m :: ms) => by
    rw [text, Document.finalText?]
    · exact lastBreak_membersText (m :: ms)
    · simp

theorem lastBreak_itemsText : ∀ items : List Document,
    lastBreak (itemsText items) = endOf (Document.finalTextOfItems? items)
  | [] => rfl
  | [item] => by
    rw [itemsText, itemsText, List.append_nil, lastBreak_behind marked_item, lastBreak_text item,
      Document.finalTextOfItems?]
  | item :: next :: rest => by
    -- what the next item is written as is not empty, so this one is not the end
    have hfinal : Document.finalTextOfItems? (item :: next :: rest) =
        Document.finalTextOfItems? (next :: rest) := rfl
    rw [itemsText, lastBreak_append_of_ne_nil _ (itemsText_cons_ne_nil next rest),
      lastBreak_itemsText (next :: rest), hfinal]

theorem lastBreak_membersText : ∀ members : List (String × Document),
    lastBreak (membersText members) = endOf (Document.finalTextOfMembers? members)
  | [] => rfl
  | [(key, value)] => by
    rw [membersText, membersText, List.append_nil, lastBreak_memberText, lastBreak_text value,
      Document.finalTextOfMembers?]
  | (key, value) :: next :: rest => by
    have hfinal : Document.finalTextOfMembers? ((key, value) :: next :: rest) =
        Document.finalTextOfMembers? (next :: rest) := rfl
    rw [membersText, lastBreak_append_of_ne_nil _ (membersText_cons_ne_nil next rest),
      lastBreak_membersText (next :: rest), hfinal]

end

/-- The last character of a printed document. -/
theorem getLast?_print (d : Document) :
    (print d).toList.getLast? = some (endOf d.finalText?) := by
  rw [print, String.toList_ofList, getLast?_endLine, lastBreak_text]

end Yaml

/-- A document ends with a text that overhangs. -/
def Document.Overhangs (d : Document) : Prop := ∃ s, d.finalText? = some s ∧ Yaml.Overhangs s

theorem Document.overhangs_iff {d : Document} {s : String} (h : d.finalText? = some s) :
    d.Overhangs ↔ Yaml.Overhangs s := by
  simp [Overhangs, h]

/-- A printed document ends in a line feed unless it overhangs. -/
theorem Yaml.closed_feed_print_iff {d : Document} :
    Closed (· = '\n') (print d).toList ↔ ¬d.Overhangs := by
  rw [Closed, getLast?_print, Document.Overhangs]
  simp only [← lastBreak_scalarText_ne_feed_iff]
  cases d.finalText? <;> simp [endOf]

end ShardManifest
