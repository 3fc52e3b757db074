import ShardManifest.Yaml.Character

/-!
# Lines of texts and the pieces between separators

A text is cut into lines behind every character that ends a line; which characters do is a
parameter. Lines of three hyphens separate documents.

## Main definitions

- `Yaml.linesAt`: the lines of a text, each with its end
- `Yaml.piecesAt`: the texts between the lines that separate documents

## Main results

- `Yaml.linesAt_append`: behind a text that is closed a new line begins
- `Yaml.piecesAt_append_separator`: what stands in front of a separator is a piece
-/

namespace ShardManifest.Yaml

variable {ends : Char → Bool} {xs ys : List Char}

/-- The lines of a text, each with the character that ends it. -/
def linesAt (ends : Char → Bool) : List Char → List (List Char)
  | [] => []
  | c :: rest =>
    if ends c then [c] :: linesAt ends rest
    else
      match linesAt ends rest with
      | [] => [[c]]
      | line :: more => (c :: line) :: more

/-- Whether a line is three hyphens, apart from its end. -/
def isSeparator (ends : Char → Bool) (line : List Char) : Bool :=
  line.filter (fun c => !ends c) = ['-', '-', '-']

/-- The texts between the lines that separate documents. -/
def piecesAt (ends : Char → Bool) (cs : List Char) : List (List Char) :=
  ((linesAt ends cs).splitOnP (isSeparator ends)).map List.flatten

/-- A text that is empty or in which the last line has an end. -/
def Closed (ends : Char → Bool) (cs : List Char) : Prop := ∀ c, cs.getLast? = some c → ends c = true

/-- A text none of whose lines separates documents. -/
def Unseparated (ends : Char → Bool) (cs : List Char) : Prop :=
  ∀ line ∈ linesAt ends cs, isSeparator ends line = false

theorem linesAt_cons_of_end {c : Char} (h : ends c = true) (rest : List Char) :
    linesAt ends (c :: rest) = [c] :: linesAt ends rest := by
  rw [linesAt, if_pos h]

theorem linesAt_cons_of_not_end {c : Char} {rest line : List Char} {more : List (List Char)}
    (h : ends c = false) (hlines : linesAt ends rest = line :: more) :
    linesAt ends (c :: rest) = (c :: line) :: more := by
  rw [linesAt, hlines]
  simp [h]

theorem exists_linesAt_cons (ends : Char → Bool) (c : Char) (rest : List Char) :
    ∃ line more, linesAt ends (c :: rest) = line :: more := by
  rw [linesAt]
  split
  · exact ⟨_, _, rfl⟩
  · split <;> exact ⟨_, _, rfl⟩

theorem flatten_linesAt (ends : Char → Bool) (cs : List Char) : (linesAt ends cs).flatten = cs := by
  induction cs with
  | nil => rfl
  | cons c rest ih =>
    rw [linesAt]
    split
    · rw [List.flatten_cons, ih]
      rfl
    · split
      next hlines =>
        rw [hlines] at ih
        simp [← ih]
      next line more hlines =>
        rw [hlines] at ih
        simp [← ih]

theorem closed_nil : Closed ends [] := by
  intro c hc
  cases hc

theorem Closed.tail {c d : Char} {rest : List Char} (h : Closed ends (c :: d :: rest)) :
    Closed ends (d :: rest) := by
  intro e he
  exact h e (by rwa [List.getLast?_cons_cons])

theorem Closed.append (hy : Closed ends ys) (hx : Closed ends xs) : Closed ends (xs ++ ys) := by
  intro c hc
  rw [List.getLast?_append] at hc
  cases hys : ys.getLast? with
  | none =>
    rw [hys] at hc
    exact hx c hc
  | some d =>
    rw [hys] at hc
    cases hc
    exact hy c hys

/-- Behind a text that is closed a new line begins. -/
theorem linesAt_append (h : Closed ends xs) (ys : List Char) :
    linesAt ends (xs ++ ys) = linesAt ends xs ++ linesAt ends ys := by
  induction xs with
  | nil => rfl
  | cons c rest ih =>
    cases rest with
    | nil =>
      have hend : ends c = true := h c rfl
      rw [List.cons_append, linesAt_cons_of_end hend, linesAt_cons_of_end hend]
      rfl
    | cons d rest =>
      have hrest := ih h.tail
      cases hend : ends c with
      | true =>
        rw [List.cons_append, linesAt_cons_of_end hend, linesAt_cons_of_end hend, hrest]
        rfl
      | false =>
        -- the rest is not empty, so its first line takes the character in both texts
        obtain ⟨line, more, hlines⟩ := exists_linesAt_cons ends d rest
        rw [hlines] at hrest
        rw [List.cons_append, linesAt_cons_of_not_end hend hrest,
          linesAt_cons_of_not_end hend hlines]
        rfl

/-- A text without ends of lines is part of one line with what follows. -/
theorem linesAt_unended (h : ∀ c ∈ xs, ends c = false) {line : List Char}
    {more : List (List Char)} (hlines : linesAt ends ys = line :: more) :
    linesAt ends (xs ++ ys) = (xs ++ line) :: more := by
  induction xs with
  | nil => exact hlines
  | cons c rest ih =>
    exact linesAt_cons_of_not_end (h c List.mem_cons_self)
      (ih fun d hd => h d (List.mem_cons_of_mem c hd))

theorem linesAt_of_unended (h : ∀ c ∈ xs, ends c = false) (hne : xs ≠ []) :
    linesAt ends xs = [xs] := by
  rw [← List.dropLast_concat_getLast hne]
  refine linesAt_unended (fun c hc => h c (List.dropLast_subset xs hc)) ?_
  simp [linesAt, h _ (List.getLast_mem hne)]

theorem linesAt_line (h : ∀ c ∈ xs, ends c = false) {e : Char} (he : ends e = true)
    (ys : List Char) : linesAt ends (xs ++ e :: ys) = (xs ++ [e]) :: linesAt ends ys :=
  linesAt_unended h (linesAt_cons_of_end he ys)

theorem Unseparated.append (hclosed : Closed ends xs) (hx : Unseparated ends xs)
    (hy : Unseparated ends ys) : Unseparated ends (xs ++ ys) := by
  intro line hline
  rw [linesAt_append hclosed, List.mem_append] at hline
  exact hline.elim (hx line) (hy line)

/-! ### Separators -/

/-- Somewhere three hyphens stand between ends of lines, or the ends of the text. -/
def Separated (ends : Char → Bool) (cs : List Char) : Prop :=
  ∃ before after, cs = before ++ (['-', '-', '-'] ++ after) ∧ Closed ends before ∧
    ∀ c, after.head? = some c → ends c = true

/-- With more ends of lines there are more separators. -/
theorem Separated.mono {ends' : Char → Bool} (h : ∀ c, ends c = true → ends' c = true)
    (hcs : Separated ends xs) : Separated ends' xs := by
  obtain ⟨before, after, rfl, hbefore, hafter⟩ := hcs
  exact ⟨before, after, rfl, fun c hc => h c (hbefore c hc), fun c hc => h c (hafter c hc)⟩

/-- A line has no end but at its end. -/
theorem exists_of_mem_linesAt {cs line : List Char} (h : line ∈ linesAt ends cs) :
    ∃ body tail, line = body ++ tail ∧ (∀ c ∈ body, ends c = false) ∧
      (tail = [] ∨ ∃ e, tail = [e] ∧ ends e = true) := by
  induction cs generalizing line with
  | nil => cases h
  | cons c rest ih =>
    cases hend : ends c with
    | true =>
      rw [linesAt_cons_of_end hend] at h
      rcases List.mem_cons.1 h with rfl | h
      · exact ⟨[], [c], rfl, by simp, .inr ⟨c, rfl, hend⟩⟩
      · exact ih h
    | false =>
      cases rest with
      | nil =>
        have hline : line = [c] := by simpa [linesAt, hend] using h
        exact ⟨[c], [], hline, by simpa using hend, .inl rfl⟩
      | cons d rest =>
        obtain ⟨first, more, hlines⟩ := exists_linesAt_cons ends d rest
        rw [linesAt_cons_of_not_end hend hlines] at h
        rcases List.mem_cons.1 h with rfl | h
        · obtain ⟨body, tail, rfl, hbody, htail⟩ := ih (hlines ▸ List.mem_cons_self)
          refine ⟨c :: body, tail, rfl, ?_, htail⟩
          simpa [hend] using hbody
        · exact ih (hlines ▸ List.mem_cons_of_mem first h)

/-- A line that ends. -/
def Ended (ends : Char → Bool) (line : List Char) : Prop :=
  ∃ c, line.getLast? = some c ∧ ends c = true

/-- Every line ends, the last one maybe not. -/
theorem ended_of_mem_dropLast {cs line : List Char} (h : line ∈ (linesAt ends cs).dropLast) :
    Ended ends line := by
  induction cs generalizing line with
  | nil => cases h
  | cons c rest ih =>
    cases rest with
    | nil =>
      rw [linesAt] at h
      split at h <;> cases h
    | cons d rest =>
      obtain ⟨first, more, hlines⟩ := exists_linesAt_cons ends d rest
      rw [hlines] at ih
      cases hend : ends c with
      | true =>
        rw [linesAt_cons_of_end hend, hlines, List.dropLast_cons_cons] at h
        rcases List.mem_cons.1 h with rfl | h
        · exact ⟨c, rfl, hend⟩
        · exact ih h
      | false =>
        rw [linesAt_cons_of_not_end hend hlines] at h
        cases more with
        | nil => cases h
        | cons second more =>
          rw [List.dropLast_cons_cons] at h ih
          rcases List.mem_cons.1 h with rfl | h
          · obtain ⟨e, he, hends⟩ := ih List.mem_cons_self
            refine ⟨e, ?_, hends⟩
            rw [List.getLast?_cons, he]
            rfl
          · exact ih (List.mem_cons_of_mem first h)

theorem closed_flatten {lines : List (List Char)} (h : ∀ line ∈ lines, Ended ends line) :
    Closed ends lines.flatten := by
  induction lines with
  | nil => exact closed_nil
  | cons line lines ih =>
    rw [List.flatten_cons]
    refine (ih fun l hl => h l (List.mem_cons_of_mem line hl)).append fun c hc => ?_
    obtain ⟨e, he, hends⟩ := h line List.mem_cons_self
    rw [hc] at he
    cases he
    exact hends

theorem isSeparator_append (hhyphen : ends '-' = false) {tail : List Char}
    (htail : ∀ c ∈ tail, ends c = true) : isSeparator ends (['-', '-', '-'] ++ tail) = true := by
  have hnone : tail.filter (fun c => !ends c) = [] := by simpa using htail
  rw [isSeparator, List.filter_append, hnone]
  simp [hhyphen]

/-- A separator among the lines of a text is one in the text. -/
theorem separated_of_mem_linesAt {cs line : List Char} (hline : line ∈ linesAt ends cs)
    (h : isSeparator ends line = true) : Separated ends cs := by
  obtain ⟨body, tail, rfl, hbody, htail⟩ := exists_of_mem_linesAt hline
  have hends : ∀ c ∈ tail, ends c = true := by
    rcases htail with rfl | ⟨e, rfl, he⟩ <;> simp_all
  have hhyphens : body = ['-', '-', '-'] := by
    have hkept : body.filter (fun c => !ends c) = body := by simpa using hbody
    have hdropped : tail.filter (fun c => !ends c) = [] := by simpa using hends
    rw [isSeparator, List.filter_append, hkept, hdropped, List.append_nil] at h
    exact of_decide_eq_true h
  obtain ⟨before, after, hsplit⟩ := List.append_of_mem hline
  have hcs : cs = before.flatten ++ (body ++ (tail ++ after.flatten)) := by
    have hflatten := flatten_linesAt ends cs
    rw [hsplit, List.flatten_append, List.flatten_cons] at hflatten
    rw [← hflatten, List.append_assoc body]
  have hended : ∀ l ∈ before ++ ((body ++ tail) :: after).dropLast, Ended ends l := by
    intro l hl
    have hmem : l ∈ (linesAt ends cs).dropLast := by
      rwa [hsplit, List.dropLast_append_of_ne_nil (by simp)]
    exact ended_of_mem_dropLast hmem
  refine ⟨before.flatten, tail ++ after.flatten, hhyphens ▸ hcs,
    closed_flatten fun l hl => hended l (List.mem_append_left _ hl), ?_⟩
  rcases htail with rfl | ⟨e, rfl, he⟩
  · -- a line without end is the last one
    cases after with
    | nil => simp
    | cons l after =>
      obtain ⟨c, hc, hend⟩ := hended (body ++ []) (by simp)
      rw [List.append_nil] at hc
      have hnot := hbody c (List.mem_of_getLast? hc)
      rw [hend] at hnot
      cases hnot
  · intro c hc
    cases hc
    exact he

theorem unseparated_iff (hhyphen : ends '-' = false) {cs : List Char} :
    Unseparated ends cs ↔ ¬Separated ends cs := by
  constructor
  · rintro h ⟨before, after, rfl, hbefore, hafter⟩
    obtain ⟨tail, hmem, htail⟩ : ∃ tail,
        ['-', '-', '-'] ++ tail ∈ linesAt ends (['-', '-', '-'] ++ after) ∧
          ∀ c ∈ tail, ends c = true := by
      have hhyphens : ∀ c ∈ ['-', '-', '-'], ends c = false := by simp [hhyphen]
      cases after with
      | nil => exact ⟨[], by simp [linesAt_of_unended hhyphens], by simp⟩
      | cons e after =>
        have he : ends e = true := hafter e rfl
        refine ⟨[e], ?_, by simpa using he⟩
        rw [linesAt_line hhyphens he]
        exact List.mem_cons_self
    have hline := h _ (linesAt_append hbefore _ ▸ List.mem_append_right _ hmem)
    rw [isSeparator_append hhyphen htail] at hline
    cases hline
  · intro h line hline
    cases hseparator : isSeparator ends line with
    | false => rfl
    | true => exact absurd (separated_of_mem_linesAt hline hseparator) h

/-! ### Pieces -/

theorem piecesAt_of_unseparated (h : Unseparated ends xs) : piecesAt ends xs = [xs] := by
  rw [piecesAt, List.splitOnP_eq_singleton h, List.map_singleton, flatten_linesAt]

/-- What stands in front of a separator is a piece. -/
theorem piecesAt_append_separator (hhyphen : ends '-' = false) (hfeed : ends '\n' = true)
    (hclosed : Closed ends xs) (hx : Unseparated ends xs) (ys : List Char) :
    piecesAt ends (xs ++ (['-', '-', '-', '\n'] ++ ys)) = xs :: piecesAt ends ys := by
  have hhyphens : ∀ c ∈ ['-', '-', '-'], ends c = false := by simp [hhyphen]
  have hline : linesAt ends (['-', '-', '-', '\n'] ++ ys) =
      ['-', '-', '-', '\n'] :: linesAt ends ys := linesAt_line hhyphens hfeed ys
  have hseparator : isSeparator ends ['-', '-', '-', '\n'] = true := by
    simp [isSeparator, hhyphen, hfeed]
  rw [piecesAt, linesAt_append hclosed, hline,
    List.splitOnP_append_cons_of_forall_mem hx _ hseparator, List.map_cons, flatten_linesAt,
    piecesAt]

/-- What stands in pieces of a row that are followed by another piece is followed itself. -/
theorem mem_dropLast_of_mem_splitOnP {α : Type} {p : α → Bool} {l piece : List α} {a : α}
    (hpiece : piece ∈ (l.splitOnP p).dropLast) (ha : a ∈ piece) : a ∈ l.dropLast := by
  induction l generalizing piece with
  | nil =>
    rw [List.splitOnP_nil] at hpiece
    cases hpiece
  | cons b l ih =>
    have hkeep : a ∈ l.dropLast → a ∈ (b :: l).dropLast := by
      intro hmem
      cases l with
      | nil => cases hmem
      | cons c l => exact List.mem_cons_of_mem b hmem
    obtain ⟨first, more, hsplit⟩ := List.exists_cons_of_ne_nil (List.splitOnP_ne_nil p l)
    rw [List.splitOnP_cons_eq_if_modifyHead, hsplit] at hpiece
    rw [hsplit] at ih
    split at hpiece
    next =>
      rw [List.dropLast_cons_cons] at hpiece
      rcases List.mem_cons.1 hpiece with rfl | hpiece
      · cases ha
      · exact hkeep (ih hpiece ha)
    next =>
      rw [List.modifyHead_cons] at hpiece
      cases more with
      | nil => cases hpiece
      | cons second more =>
        rw [List.dropLast_cons_cons] at hpiece ih
        rcases List.mem_cons.1 hpiece with rfl | hpiece
        · rcases List.mem_cons.1 ha with rfl | ha
          · -- there is another piece, so the row does not end here
            cases l with
            | nil =>
              rw [List.splitOnP_nil] at hsplit
              cases hsplit
            | cons c l => exact List.mem_cons_self
          · exact hkeep (ih List.mem_cons_self ha)
        · exact hkeep (ih (List.mem_cons_of_mem first hpiece) ha)

/-- In front of a separator a line ends. -/
theorem closed_of_mem_dropLast_piecesAt {cs piece : List Char}
    (h : piece ∈ (piecesAt ends cs).dropLast) : Closed ends piece := by
  rw [piecesAt, ← List.map_dropLast] at h
  obtain ⟨lines, hlines, rfl⟩ := List.mem_map.1 h
  exact closed_flatten fun line hline =>
    ended_of_mem_dropLast (mem_dropLast_of_mem_splitOnP hlines hline)

/-- Texts without separators of their own are the pieces of the whole that has separators between
them, exactly when each of them but the last ends its last line. -/
theorem piecesAt_intercalate_iff (hhyphen : ends '-' = false) (hfeed : ends '\n' = true)
    {texts : List (List Char)} (hne : texts ≠ []) (h : ∀ t ∈ texts, Unseparated ends t) :
    piecesAt ends (['-', '-', '-', '\n'].intercalate texts) = texts ↔
      ∀ t ∈ texts.dropLast, Closed ends t := by
  constructor
  · intro hpieces t ht
    rw [← hpieces] at ht
    exact closed_of_mem_dropLast_piecesAt ht
  · intro hclosed
    induction texts with
    | nil => exact absurd rfl hne
    | cons t rest ih =>
      have ht := h t List.mem_cons_self
      cases rest with
      | nil => rw [List.intercalate_singleton, piecesAt_of_unseparated ht]
      | cons u rest =>
        rw [List.dropLast_cons_cons] at hclosed
        have hrest := ih (List.cons_ne_nil u rest) (fun v hv => h v (List.mem_cons_of_mem t hv))
          fun v hv => hclosed v (List.mem_cons_of_mem t hv)
        have hfirst := hclosed t List.mem_cons_self
        rw [List.intercalate_cons_cons, List.append_assoc,
          piecesAt_append_separator hhyphen hfeed hfirst ht, hrest]

end ShardManifest.Yaml
