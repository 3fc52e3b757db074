import ShardManifest.Proofs.Yaml.Lines
import ShardManifest.Yaml.Printer

/-!
# Printed blocks

No line of a printed mapping separates documents, whatever the mapping holds: a line begins with a
name and a colon, with a mark, or with a blank.

## Main definitions

- `Yaml.Marked`: the beginning of a line that is not three hyphens
- `Yaml.LineBlock`: lines that can stand in front of others

## Main results

- `Yaml.lineBlock_membersText`: the lines of a mapping are a block
- `Yaml.lineBlock_print_mapping`: so is a printed mapping
-/

namespace ShardManifest.Yaml

variable {pre cs : List Char}

/-! ### Marks -/

theorem isBreak_iff {c : Char} :
    isBreak c = true ↔
      c = '\n' ∨ c = '\r' ∨ c = nextLine ∨ c = lineSeparator ∨ c = paragraphSeparator := by
  simp [isBreak, or_assoc]

/-- A text on one line. -/
def Unbroken (cs : List Char) : Prop := ∀ c ∈ cs, isBreak c = false

theorem unbroken_of_all (h : cs.all (fun c => !isBreak c) = true) : Unbroken cs := by
  simpa [Unbroken] using h

theorem unbroken_singleton {c : Char} (h : isBreak c = false) : Unbroken [c] := by
  intro d hd
  rw [List.mem_singleton.1 hd]
  exact h

theorem Unbroken.append (hpre : Unbroken pre) (hcs : Unbroken cs) : Unbroken (pre ++ cs) := by
  intro c hc
  exact (List.mem_append.1 hc).elim (hpre c) (hcs c)

theorem Unbroken.cons {c : Char} (hc : isBreak c = false) (hcs : Unbroken cs) :
    Unbroken (c :: cs) :=
  (unbroken_singleton hc).append hcs

theorem unbroken_ite {p : Prop} [Decidable p] (hpre : Unbroken pre) (hcs : Unbroken cs) :
    Unbroken (if p then pre else cs) := by
  split
  · exact hpre
  · exact hcs

/-- The beginning of a line that is something else than hyphens. -/
structure Marked (pre : List Char) : Prop where
  unbroken : Unbroken pre
  other : ∃ c ∈ pre, c ≠ '-'

theorem Marked.append (h : Marked pre) (hcs : Unbroken cs) : Marked (pre ++ cs) := by
  refine ⟨h.unbroken.append hcs, ?_⟩
  obtain ⟨c, hc, hne⟩ := h.other
  exact ⟨c, List.mem_append_left cs hc, hne⟩

theorem Marked.ne_nil (h : Marked pre) : pre ≠ [] := by
  rintro rfl
  obtain ⟨c, hc, -⟩ := h.other
  cases hc

theorem Marked.isSeparator_eq_false (h : Marked pre) (rest : List Char) :
    isSeparator isBreak (pre ++ rest) = false := by
  obtain ⟨c, hc, hne⟩ := h.other
  rw [isSeparator, decide_eq_false_iff_not]
  intro heq
  have hmem : c ∈ (pre ++ rest).filter fun c => !isBreak c := by
    simp [hc, h.unbroken c hc]
  rw [heq] at hmem
  simp [hne] at hmem

theorem unseparated_nil : Unseparated isBreak [] := by
  intro line hline
  cases hline

theorem unseparated_of_marked (h : Marked pre) : Unseparated isBreak pre := by
  intro line hline
  rw [linesAt_of_unended h.unbroken h.ne_nil, List.mem_singleton] at hline
  have hseparator := h.isSeparator_eq_false []
  rwa [List.append_nil, ← hline] at hseparator

theorem unseparated_break {e : Char} (he : isBreak e = true) (hcs : Unseparated isBreak cs) :
    Unseparated isBreak (e :: cs) := by
  intro line hline
  rw [linesAt_cons_of_end he] at hline
  rcases List.mem_cons.1 hline with rfl | hline
  · simp [isSeparator, he]
  · exact hcs line hline

theorem Marked.unseparated_line (h : Marked pre) {e : Char} (he : isBreak e = true)
    (hcs : Unseparated isBreak cs) : Unseparated isBreak (pre ++ e :: cs) := by
  intro line hline
  rw [linesAt_line h.unbroken he] at hline
  rcases List.mem_cons.1 hline with rfl | hline
  · exact h.isSeparator_eq_false [e]
  · exact hcs line hline

/-- A text whose lines are moved to the right has no separators, also behind a mark. -/
theorem unseparated_nest (cs : List Char) :
    Unseparated isBreak (nest true cs) ∧
      ∀ pre, Marked pre → Unseparated isBreak (pre ++ nest false cs) := by
  induction cs with
  | nil =>
    refine ⟨unseparated_nil, fun pre hpre => ?_⟩
    rw [nest, List.append_nil]
    exact unseparated_of_marked hpre
  | cons c cs ih =>
    obtain ⟨hstart, hbehind⟩ := ih
    cases hbreak : isBreak c with
    | true =>
      have hnest : ∀ b, nest b (c :: cs) = c :: nest true cs := by simp [nest, hbreak]
      simp only [hnest]
      exact ⟨unseparated_break hbreak hstart, fun pre hpre => hpre.unseparated_line hbreak hstart⟩
    | false =>
      have hc : Unbroken [c] := unbroken_singleton hbreak
      have hblanks : Marked [' ', ' ', c] := ⟨(hc.cons rfl).cons rfl, ' ', by simp, by decide⟩
      have hnest : nest true (c :: cs) = [' ', ' ', c] ++ nest false cs := by simp [nest, hbreak]
      have hnest' : nest false (c :: cs) = [c] ++ nest false cs := by simp [nest, hbreak]
      refine ⟨?_, fun pre hpre => ?_⟩
      · rw [hnest]
        exact hbehind _ hblanks
      · rw [hnest', ← List.append_assoc]
        exact hbehind _ (hpre.append hc)

/-! ### Blocks -/

/-- Lines that can stand in front of others: the last one has an end, and none is a separator. -/
structure LineBlock (cs : List Char) : Prop where
  closed : Closed isBreak cs
  unseparated : Unseparated isBreak cs

theorem lineBlock_nil : LineBlock [] := ⟨closed_nil, unseparated_nil⟩

theorem LineBlock.append {xs ys : List Char} (hx : LineBlock xs) (hy : LineBlock ys) :
    LineBlock (xs ++ ys) :=
  ⟨hy.closed.append hx.closed, hx.unseparated.append hx.closed hy.unseparated⟩

theorem lineBlock_line (h : Marked pre) : LineBlock (pre ++ ['\n']) := by
  constructor
  · intro c hc
    rw [List.getLast?_concat] at hc
    cases hc
    rfl
  · exact h.unseparated_line rfl unseparated_nil

theorem nest_append_feed (b : Bool) (cs : List Char) :
    nest b (cs ++ ['\n']) = nest b cs ++ ['\n'] := by
  induction cs generalizing b with
  | nil => rfl
  | cons c cs ih =>
    rw [List.cons_append, nest, nest]
    split
    · rw [ih]
      rfl
    · split
      · rw [ih]
        rfl
      · rw [ih]
        rfl

theorem closed_endLine (cs : List Char) : Closed isBreak (endLine cs) := by
  intro c hc
  rw [endLine] at hc
  split at hc
  next d hd =>
    split at hc
    next hbreak =>
      rw [hd] at hc
      cases hc
      exact hbreak
    next =>
      rw [List.getLast?_concat] at hc
      cases hc
      rfl
  next =>
    cases hc
    rfl

/-- A text behind a mark, with its last line ended, is a block. -/
theorem lineBlock_endLine (h : Marked pre) (cs : List Char) :
    LineBlock (endLine (pre ++ nest false cs)) := by
  refine ⟨closed_endLine _, ?_⟩
  have hpre : pre ++ nest false cs ≠ [] := by simp [h.ne_nil]
  rw [endLine, List.getLast?_eq_some_getLast hpre]
  split
  next =>
    split
    next => exact (unseparated_nest cs).2 pre h
    next =>
      rw [List.append_assoc, ← nest_append_feed]
      exact (unseparated_nest _).2 pre h
  next heq => cases heq

/-- Lines that can stand in front of others have no last line to end. -/
theorem LineBlock.endLine (h : LineBlock cs) : LineBlock (endLine cs) := by
  refine ⟨closed_endLine cs, ?_⟩
  rw [Yaml.endLine]
  split
  next c hc =>
    rw [if_pos (h.closed c hc)]
    exact h.unseparated
  next => exact unseparated_break rfl unseparated_nil

theorem lineBlock_behind {mark : String} (h : Marked mark.toList) (cs : List Char) :
    LineBlock (behind mark cs) := lineBlock_endLine h cs

/-! ### Scalars -/

theorem unbroken_hexDigits (width n : Nat) : Unbroken (hexDigits width n) := by
  have hdigit : ∀ k < 16, isBreak (Nat.digitChar k).toUpper = false := by decide
  induction width generalizing n with
  | zero =>
    intro c hc
    cases hc
  | succ width ih =>
    have hlast := hdigit (n % 16) (Nat.mod_lt n (by decide))
    exact (ih (n / 16)).append (unbroken_singleton hlast)

/-- An escaped character is on one line: every break has a letter of its own. -/
theorem unbroken_escapeChar (c : Char) : Unbroken (escapeChar c) := by
  have hcode : ∀ mark width, isBreak mark = false →
      Unbroken ('\\' :: mark :: hexDigits width c.toNat) := fun mark width hmark =>
    ((unbroken_hexDigits width c.toNat).cons hmark).cons rfl
  cases hbreak : isBreak c with
  | true =>
    rcases isBreak_iff.1 hbreak with rfl | rfl | rfl | rfl | rfl <;>
      exact unbroken_of_all (by decide)
  | false =>
    have hself : Unbroken [c] := unbroken_singleton hbreak
    have hletter : ∀ letter, isBreak letter = false → Unbroken ['\\', letter] :=
      fun letter hl => (unbroken_singleton hl).cons rfl
    rw [escapeChar]
    refine unbroken_ite (hself.cons rfl) ?_
    -- the characters that have a letter
    iterate 12 refine unbroken_ite (hletter _ rfl) ?_
    refine unbroken_ite hself (unbroken_ite (hcode 'x' 2 rfl) (unbroken_ite ?_ ?_))
    · exact hcode 'u' 4 rfl
    · exact hcode 'U' 8 rfl

theorem unbroken_flatMap {f : Char → List Char} (h : ∀ c ∈ cs, Unbroken (f c)) :
    Unbroken (cs.flatMap f) := by
  intro c hc
  obtain ⟨d, hd, hc⟩ := List.mem_flatMap.1 hc
  exact h d hd c hc

/-- A name that can stand in front of its value is on one line. -/
theorem unbroken_scalarText {key : String} (h : isSimpleKey key = true) :
    Unbroken (scalarText key) := by
  rw [isSimpleKey, Bool.and_eq_true, Bool.not_eq_true', List.any_eq_false] at h
  have hkey : Unbroken key.toList := by simpa [Unbroken] using h.1
  rw [scalarText]
  cases hform : formOf key with
  | plain => exact hkey
  | singleQuoted =>
    have hdoubled : ∀ c ∈ key.toList, Unbroken (if c = '\'' then [c, c] else [c]) := by
      intro c hc
      have hself : Unbroken [c] := unbroken_singleton (hkey c hc)
      exact unbroken_ite (hself.cons (hkey c hc)) hself
    exact ((unbroken_flatMap hdoubled).cons rfl).append (unbroken_singleton rfl)
  | doubleQuoted =>
    have hescaped := unbroken_flatMap fun c (_ : c ∈ key.toList) => unbroken_escapeChar c
    exact (hescaped.cons rfl).append (unbroken_singleton rfl)
  | literal =>
    -- a name with a line feed is not simple
    have hnot : '\n' ∉ key.toList := by
      intro hmem
      have hfeed := hkey '\n' hmem
      cases hfeed
    simp only [formOf, if_neg hnot] at hform
    split at hform
    · cases hform
    · split at hform <;> cases hform

/-! ### Members -/

theorem marked_name {key : String} (h : isSimpleKey key = true) :
    Marked (scalarText key ++ [':']) :=
  ⟨(unbroken_scalarText h).append (unbroken_singleton rfl), ':', by simp, by decide⟩

theorem marked_of_all (h : cs.all (fun c => !isBreak c) = true)
    (hother : cs.any (· ≠ '-') = true) : Marked cs :=
  ⟨unbroken_of_all h, by simpa using hother⟩

theorem marked_item : Marked "- ".toList := marked_of_all (by decide) (by decide)

theorem marked_key : Marked "? ".toList := marked_of_all (by decide) (by decide)

theorem marked_value : Marked ": ".toList := marked_of_all (by decide) (by decide)

theorem getLast?_nest (b : Bool) (cs : List Char) : (nest b cs).getLast? = cs.getLast? := by
  induction cs generalizing b with
  | nil => rfl
  | cons c cs ih =>
    have hlast : ∀ b, (c :: nest b cs).getLast? = (c :: cs).getLast? := by
      intro b
      rw [List.getLast?_cons, List.getLast?_cons, ih]
    rw [nest]
    split
    · exact hlast true
    · split
      · rw [List.getLast?_cons_cons, List.getLast?_cons_cons]
        exact hlast false
      · exact hlast false

theorem lineBlock_nest {cs : List Char} (h : Closed isBreak cs) : LineBlock (nest true cs) := by
  refine ⟨fun c hc => ?_, (unseparated_nest cs).1⟩
  rw [getLast?_nest] at hc
  exact h c hc

/-- A member is a block, given that the lines of a mapping in it are one. -/
theorem lineBlock_memberText {key : String} {value : Document}
    (hlist : ∀ item items, value = .list (item :: items) → LineBlock (itemsText (item :: items)))
    (hmapping : ∀ m ms, value = .mapping (m :: ms) → LineBlock (membersText (m :: ms))) :
    LineBlock (memberText key value (text value)) := by
  cases hkey : isSimpleKey key with
  | false =>
    rw [memberText.eq_def, if_neg (by simp [hkey])]
    exact (lineBlock_behind marked_key _).append (lineBlock_behind marked_value _)
  | true =>
    have hname := lineBlock_line (marked_name hkey)
    have hbehind :
        LineBlock (endLine (scalarText key ++ ':' :: ' ' :: nest false (text value))) := by
      have hmarked : Marked (scalarText key ++ [':'] ++ [' ']) :=
        (marked_name hkey).append (unbroken_singleton rfl)
      simpa using lineBlock_endLine hmarked (text value)
    rw [memberText.eq_def, if_pos hkey]
    split
    next item items =>
      have hitems := hname.append (hlist item items rfl)
      simpa [text] using hitems
    next m ms =>
      have hmembers := hname.append (lineBlock_nest (hmapping m ms rfl).closed)
      simpa [text] using hmembers
    next => exact hbehind

theorem lineBlock_itemsText (items : List Document) : LineBlock (itemsText items) := by
  induction items with
  | nil => exact lineBlock_nil
  | cons item items ih => exact (lineBlock_behind marked_item _).append ih

mutual

/-- Whatever a mapping holds, its lines are a block. -/
theorem lineBlock_membersText : ∀ members : List (String × Document),
    LineBlock (membersText members)
  | [] => lineBlock_nil
  | (_, value) :: rest =>
    (lineBlock_memberText (fun _ _ _ => lineBlock_itemsText _) (lineBlock_membersIn value)).append
      (lineBlock_membersText rest)

theorem lineBlock_membersIn : ∀ (value : Document) (m : String × Document)
    (ms : List (String × Document)), value = .mapping (m :: ms) → LineBlock (membersText (m :: ms))
  | .mapping members, _, _, h => by
    cases h
    exact lineBlock_membersText _
  | .null, _, _, h | .bool _, _, _, h | .integer _, _, _, h | .float _, _, _, h | .text _, _, _, h
  | .list _, _, _, h => by cases h

end

theorem marked_braces : Marked ['\x7b', '\x7d'] := marked_of_all (by decide) (by decide)

/-- A mapping is printed as lines that can stand in front of others. -/
theorem lineBlock_print_mapping (members : List (String × Document)) :
    LineBlock (print (.mapping members)).toList := by
  rw [print, String.toList_ofList]
  cases members with
  | nil => exact lineBlock_line marked_braces
  | cons m ms =>
    rw [text]
    · exact (lineBlock_membersText _).endLine
    · simp

end ShardManifest.Yaml
