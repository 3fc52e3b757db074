import ShardManifest.Proofs.Xml.Grammar

/-!
# Reading a text

A reader goes through a text once and keeps the elements that are open, the innermost first. It
accepts a text exactly when the text spells one element, and then returns that element; so a text
spells one element at most.

## Main definitions

- `Xml.Frame`, `Xml.Reading`: the open elements, and how far a text has been read
- `Xml.Reading.step`: what one character does
- `Xml.read?`: the element that a text spells

## Main results

- `Xml.Reading.run_spells`: reading what spells a row appends the row to the innermost open element
- `Xml.Reads.step`: what has been read stands for the text so far
- `Xml.read?_eq_some_iff`: a text is read as the element that it spells
-/

namespace ShardManifest.Xml

/-- An element whose close tag is still to come, with what it holds so far. -/
structure Frame where
  tag : String
  data : List Char
  children : List Element

/-- The element that a frame comes to when it is closed. -/
def Frame.element? (f : Frame) : Option Element :=
  if f.children.isEmpty then
    if isCharacterData f.data then some (.leaf f.tag (unescape (.ofList f.data))) else none
  else if f.data.all isBlank then some (.branch f.tag f.children)
  else none

def Frame.addElement (f : Frame) (e : Element) : Frame := { f with children := f.children ++ [e] }

def Frame.addData (f : Frame) (c : Char) : Frame := { f with data := f.data ++ [c] }

/-- How far a text has been read. -/
structure Reading where
  /-- What the tag that is being read holds so far. -/
  tag? : Option (List Char)
  /-- The innermost open element. -/
  top : Frame
  /-- The elements around it, from the inside; the last one stands for the text as a whole. -/
  outer : List Frame

namespace Reading

def start : Reading := ⟨none, ⟨"", [], []⟩, []⟩

def open? (r : Reading) (name : List Char) : Option Reading :=
  if isElementName (.ofList name) then some ⟨none, ⟨.ofList name, [], []⟩, r.top :: r.outer⟩
  else none

def close? (r : Reading) (name : List Char) : Option Reading :=
  match r.outer with
  | [] => none
  | f :: outer =>
    if r.top.tag.toList = name then r.top.element?.map fun e => ⟨none, f.addElement e, outer⟩
    else none

/-- What a tag does that holds the given characters. -/
def endTag (r : Reading) : List Char → Option Reading
  | '/' :: name => r.close? name
  | name => r.open? name

def step (r : Reading) (c : Char) : Option Reading :=
  match r.tag? with
  | none =>
    if c = '<' then some { r with tag? := some [] } else some { r with top := r.top.addData c }
  | some name =>
    if c = '>' then r.endTag name else some { r with tag? := some (name ++ [c]) }

def run (r : Reading) (text : List Char) : Option Reading := text.foldlM step r

/-- The element of a text that has been read to its end. -/
def root? : Reading → Option Element
  | ⟨none, ⟨_, data, [e]⟩, []⟩ => if data.all isBlank then some e else none
  | _ => none

end Reading

/-- The element that a text spells. -/
def read? (text : String) : Option Element :=
  (Reading.start.run text.toList).bind Reading.root?

/-! ### Reading what is spelled -/

namespace Reading

variable {outer : List Frame} {f top : Frame} {tag : String}

@[simp] theorem run_nil (r : Reading) : r.run [] = some r := rfl

theorem run_cons (r : Reading) (c : Char) (text : List Char) :
    r.run (c :: text) = (r.step c).bind fun r => r.run text := rfl

theorem run_append (r : Reading) (text more : List Char) :
    r.run (text ++ more) = (r.run text).bind fun r => r.run more :=
  List.foldlM_append

/-- Data goes to the innermost open element. -/
theorem run_data {data : List Char} (h : '<' ∉ data) :
    run ⟨none, top, outer⟩ data =
      some ⟨none, { top with data := top.data ++ data }, outer⟩ := by
  induction data generalizing top with
  | nil => simp
  | cons c data ih =>
    have hc : c ≠ '<' := Ne.symm (List.ne_of_not_mem_cons h)
    have hstep : step ⟨none, top, outer⟩ c = some ⟨none, top.addData c, outer⟩ := by
      simp [step, hc]
    rw [run_cons, hstep, Option.bind_some, ih (List.not_mem_of_not_mem_cons h)]
    simp [Frame.addData]

theorem run_name {name more : List Char} (h : '>' ∉ more) :
    run ⟨some name, top, outer⟩ more = some ⟨some (name ++ more), top, outer⟩ := by
  induction more generalizing name with
  | nil => simp
  | cons c more ih =>
    have hc : c ≠ '>' := Ne.symm (List.ne_of_not_mem_cons h)
    have hstep : step ⟨some name, top, outer⟩ c = some ⟨some (name ++ [c]), top, outer⟩ := by
      simp [step, hc]
    rw [run_cons, hstep, Option.bind_some, ih (List.not_mem_of_not_mem_cons h)]
    simp

/-- A whole tag does what it holds. -/
theorem run_tag {name : List Char} (h : '>' ∉ name) :
    run ⟨none, top, outer⟩ ('<' :: (name ++ ['>'])) =
      endTag ⟨some name, top, outer⟩ name := by
  have hopen : step ⟨none, top, outer⟩ '<' = some ⟨some [], top, outer⟩ := rfl
  rw [run_cons, hopen, Option.bind_some, run_append, run_name h, Option.bind_some, run_cons]
  simp [step]

theorem run_openTag (htag : isElementName tag = true) :
    run ⟨none, top, outer⟩ (openTag tag) = some ⟨none, ⟨tag, [], []⟩, top :: outer⟩ := by
  obtain ⟨first, rest, hname, hfirst, -⟩ := isElementName_iff.1 htag
  have hslash : first ≠ '/' := by
    rintro rfl
    exact absurd hfirst (by decide)
  rw [openTag, run_tag (not_mem_of_isElementName htag (by decide))]
  have hopen : endTag ⟨some tag.toList, top, outer⟩ tag.toList =
      open? ⟨some tag.toList, top, outer⟩ tag.toList := by
    rw [hname]
    simp [endTag, hslash]
  rw [hopen, open?, String.ofList_toList, if_pos htag]

theorem run_closeTag (htag : isElementName top.tag = true) :
    run ⟨none, top, f :: outer⟩ (closeTag top.tag) =
      top.element?.map fun e => ⟨none, f.addElement e, outer⟩ := by
  have hname : '>' ∉ '/' :: top.tag.toList := by
    simpa using not_mem_of_isElementName htag (by decide)
  have hclose : closeTag top.tag = '<' :: ('/' :: top.tag.toList ++ ['>']) := rfl
  rw [hclose, run_tag hname, endTag, close?]
  simp

/-- A whole element goes to the element around it. -/
theorem run_element (htag : isElementName tag = true) {inner : List Char} {inside : Frame}
    {e : Element} (hinner : run ⟨none, ⟨tag, [], []⟩, top :: outer⟩ inner =
      some ⟨none, inside, top :: outer⟩) (hinside : inside.tag = tag)
    (he : inside.element? = some e) (rest : List Char) :
    run ⟨none, top, outer⟩ (openTag tag ++ (inner ++ (closeTag tag ++ rest))) =
      run ⟨none, top.addElement e, outer⟩ rest := by
  subst hinside
  rw [run_append, run_openTag htag, Option.bind_some, run_append, hinner, Option.bind_some,
    run_append, run_closeTag htag, he]
  rfl

theorem not_mem_of_isBlank {blank : List Char} (h : blank.all isBlank = true) : '<' ∉ blank :=
  (isCharacterData_iff.1 (isCharacterData_of_blank h)).1

/-- Reading what spells a row appends the row to the innermost open element, and white space to its
data. -/
theorem run_spells {elements : List Element} {text : List Char} (h : Spells elements text)
    (top : Frame) (outer : List Frame) :
    ∃ blank, blank.all isBlank = true ∧ run ⟨none, top, outer⟩ text =
      some ⟨none, ⟨top.tag, top.data ++ blank, top.children ++ elements⟩, outer⟩ := by
  induction h generalizing top outer with
  | nil hblank => exact ⟨_, hblank, by simp [run_data (not_mem_of_isBlank hblank)]⟩
  | @leaf blank data rest tag elements hblank htag hdata _ ih =>
    let around : Frame := { top with data := top.data ++ blank }
    have hinner : run ⟨none, ⟨tag, [], []⟩, around :: outer⟩ data =
        some ⟨none, ⟨tag, data, []⟩, around :: outer⟩ := run_data (isCharacterData_iff.1 hdata).1
    have he : Frame.element? ⟨tag, data, []⟩ = some (.leaf tag (unescape (.ofList data))) := by
      simp [Frame.element?, hdata]
    obtain ⟨blank', hblank', hrest⟩ := ih (around.addElement _) outer
    refine ⟨blank ++ blank', by rw [List.all_append, hblank, hblank']; rfl, ?_⟩
    rw [run_append, run_data (not_mem_of_isBlank hblank), Option.bind_some,
      run_element htag hinner rfl he, hrest]
    simp [around, Frame.addElement]
  | @branch blank inner rest tag children elements hblank htag _ hchildren _ ihinner ihrest =>
    let around : Frame := { top with data := top.data ++ blank }
    obtain ⟨data, hdata, hinner⟩ := ihinner ⟨tag, [], []⟩ (around :: outer)
    have he : Frame.element? ⟨tag, data, children⟩ = some (.branch tag children) := by
      simp [Frame.element?, hdata, hchildren]
    obtain ⟨blank', hblank', hrest⟩ := ihrest (around.addElement _) outer
    refine ⟨blank ++ blank', by rw [List.all_append, hblank, hblank']; rfl, ?_⟩
    rw [run_append, run_data (not_mem_of_isBlank hblank), Option.bind_some,
      run_element htag hinner rfl he, hrest]
    simp [around, Frame.addElement]

end Reading

/-! ### What has been read -/

/-- A text spells an element in front of any row. -/
def SpellsFirst (e : Element) (text : List Char) : Prop :=
  ∀ ⦃elements rest⦄, Spells elements rest → Spells (e :: elements) (text ++ rest)

/-- A text holds the given data and, among it, the given elements. -/
inductive Holds : List Char → List Element → List Char → Prop
  | nil : Holds [] [] []
  | data {d : List Char} {elements : List Element} {text : List Char}
      (h : Holds d elements text) (c : Char) : Holds (d ++ [c]) elements (text ++ [c])
  | element {d : List Char} {elements : List Element} {text more : List Char} {e : Element}
      (h : Holds d elements text) (he : SpellsFirst e more) :
      Holds d (elements ++ [e]) (text ++ more)

theorem Holds.eq_of_nil {d text : List Char} (h : Holds d [] text) : d = text := by
  generalize hnil : ([] : List Element) = elements at h
  induction h with
  | nil => rfl
  | data _ c ih => rw [ih hnil]
  | element => simp at hnil

/-- Where the data is white space the elements are spelled. -/
theorem Holds.spells {d : List Char} {elements : List Element} {text : List Char}
    (h : Holds d elements text) (hd : d.all isBlank = true) {more : List Element}
    {rest : List Char} (hrest : Spells more rest) : Spells (elements ++ more) (text ++ rest) := by
  induction h generalizing more rest with
  | nil => exact hrest
  | data _ c ih =>
    rw [List.all_append, Bool.and_eq_true] at hd
    rw [List.append_assoc]
    exact ih hd.1 (hrest.blank_append hd.2)
  | element _ he ih =>
    rw [List.append_assoc, List.append_assoc]
    exact ih hd (he hrest)

/-- A frame that can be closed is spelled by its tags and what it holds. -/
theorem Frame.spellsFirst {f : Frame} {inner : List Char} {e : Element}
    (htag : isElementName f.tag = true) (hinner : Holds f.data f.children inner)
    (he : f.element? = some e) : SpellsFirst e (openTag f.tag ++ (inner ++ closeTag f.tag)) := by
  intro elements rest hrest
  simp only [List.append_assoc]
  rw [Frame.element?] at he
  split at he
  next hnone =>
    -- nothing but data, which is all that stands between the tags
    rw [List.isEmpty_iff.1 hnone] at hinner
    obtain rfl := hinner.eq_of_nil
    split at he
    next hdata =>
      obtain rfl := Option.some.inj he
      exact .leaf List.all_nil htag hdata hrest
    next => cases he
  next hsome =>
    split at he
    next hblank =>
      obtain rfl := Option.some.inj he
      have hchildren := hinner.spells hblank (.nil List.all_nil)
      rw [List.append_nil, List.append_nil] at hchildren
      exact .branch List.all_nil htag hchildren (fun h => hsome (by simp [h])) hrest
    next => cases he

/-- A text opens the given frames, and holds in each what the frame has. -/
inductive Opens : Frame → List Frame → List Char → Prop
  | document {f : Frame} {text : List Char} (h : Holds f.data f.children text) : Opens f [] text
  | inside {f g : Frame} {outer : List Frame} {text inner : List Char} (hg : Opens g outer text)
      (htag : isElementName f.tag = true) (h : Holds f.data f.children inner) :
      Opens f (g :: outer) (text ++ (openTag f.tag ++ inner))

theorem Opens.addData {f : Frame} {outer : List Frame} {text : List Char} (h : Opens f outer text)
    (c : Char) : Opens (f.addData c) outer (text ++ [c]) := by
  cases h with
  | document h => exact .document (h.data c)
  | inside hg htag h =>
    rw [List.append_assoc, List.append_assoc]
    exact .inside (f := f.addData c) hg htag (h.data c)

theorem Opens.addElement {f : Frame} {outer : List Frame} {text more : List Char} {e : Element}
    (h : Opens f outer text) (he : SpellsFirst e more) :
    Opens (f.addElement e) outer (text ++ more) := by
  cases h with
  | document h => exact .document (h.element he)
  | inside hg htag h =>
    rw [List.append_assoc, List.append_assoc]
    exact .inside (f := f.addElement e) hg htag (h.element he)

/-- What has been read of a text: the frames that it opens, and the tag that it ends in. -/
def Reads (r : Reading) (text : List Char) : Prop :=
  match r.tag? with
  | none => Opens r.top r.outer text
  | some name => ∃ before, text = before ++ '<' :: name ∧ Opens r.top r.outer before

theorem Reads.open? {r r' : Reading} {before name : List Char} (h : Opens r.top r.outer before)
    (hr' : r.open? name = some r') : Reads r' (before ++ '<' :: (name ++ ['>'])) := by
  rw [Reading.open?] at hr'
  split at hr'
  next htag =>
    obtain rfl := Option.some.inj hr'
    have hopens := Opens.inside (f := ⟨.ofList name, [], []⟩) h htag .nil
    simpa [Reads, openTag] using hopens
  next => cases hr'

theorem Reads.close? {r r' : Reading} {before name : List Char} (h : Opens r.top r.outer before)
    (hr' : r.close? name = some r') : Reads r' (before ++ '<' :: '/' :: (name ++ ['>'])) := by
  obtain ⟨_, top, outer⟩ := r
  rw [Reading.close?] at hr'
  cases h with
  | document => cases hr'
  | @inside _ f outer before inner hf htag hinner =>
    split at hr'
    next => contradiction
    next heq =>
      obtain ⟨rfl, rfl⟩ := List.cons.inj heq
      split at hr'
      next hname =>
        obtain ⟨e, he, rfl⟩ := Option.map_eq_some_iff.1 hr'
        subst hname
        have hopens := hf.addElement (Frame.spellsFirst htag hinner he)
        simpa [Reads, closeTag] using hopens
      next => cases hr'

/-- What has been read stands for the text so far. -/
theorem Reads.step {r r' : Reading} {text : List Char} {c : Char} (h : Reads r text)
    (hr' : r.step c = some r') : Reads r' (text ++ [c]) := by
  obtain ⟨tag?, top, outer⟩ := r
  rw [Reading.step] at hr'
  cases tag? with
  | none =>
    dsimp only at hr'
    split at hr'
    next hc =>
      obtain rfl := Option.some.inj hr'
      exact ⟨text, by rw [hc], h⟩
    next =>
      obtain rfl := Option.some.inj hr'
      exact h.addData c
  | some name =>
    obtain ⟨before, rfl, hopens⟩ := h
    rw [List.append_assoc]
    dsimp only at hr'
    split at hr'
    next hc =>
      subst hc
      unfold Reading.endTag at hr'
      split at hr'
      next => exact Reads.close? hopens hr'
      next => exact Reads.open? hopens hr'
    next =>
      obtain rfl := Option.some.inj hr'
      exact ⟨before, rfl, hopens⟩

theorem Reads.run {r r' : Reading} {text more : List Char} (h : Reads r text)
    (hr' : r.run more = some r') : Reads r' (text ++ more) := by
  induction more generalizing r text with
  | nil =>
    obtain rfl := Option.some.inj hr'
    rwa [List.append_nil]
  | cons c more ih =>
    obtain ⟨next, hnext, hrest⟩ := Option.bind_eq_some_iff.1 hr'
    rw [List.append_cons]
    exact ih (h.step hnext) hrest

/-- A text is read as an element exactly when it spells that element. -/
theorem read?_eq_some_iff {text : String} {e : Element} :
    read? text = some e ↔ Spells [e] text.toList := by
  constructor
  · intro h
    obtain ⟨r, hr, hroot⟩ := Option.bind_eq_some_iff.1 h
    have hstart : Reads Reading.start [] := Opens.document .nil
    have hreads := hstart.run hr
    rw [Reading.root?.eq_def] at hroot
    split at hroot
    next tag data e' =>
      split at hroot
      next hblank =>
        obtain rfl := Option.some.inj hroot
        cases hreads with
        | document hholds =>
          simpa using hholds.spells hblank (.nil List.all_nil)
      next => cases hroot
    next => cases hroot
  · intro h
    obtain ⟨blank, hblank, hrun⟩ := Reading.run_spells h ⟨"", [], []⟩ []
    rw [read?, Reading.start, hrun]
    simp [Reading.root?, hblank]

end ShardManifest.Xml
