import ShardManifest.Json.Reader
import ShardManifest.Proofs.DocumentNodes

/-!
# What a reader of JSON finds

The nodes that a JSON text spells are those of documents: a numeral is a finite double at most, and
what is put together from documents is one.

## Main definitions

- `Json.Writable`: a value that JSON can write
- `Json.IsDocument`: the node of a document
- `Json.Assembly.Filled`: the open collections hold documents

## Main results

- `Json.writable_tokens?`: the tokens of a text hold values that JSON can write
- `Json.isDocument_read?`: what a text spells is the node of a document
-/

namespace ShardManifest

section Every

variable {α β : Type} {P : α → Prop} {Q : β → Prop}

/-- What there is, if anything, has a property. -/
def Every (P : α → Prop) (a? : Option α) : Prop := ∀ a, a? = some a → P a

theorem every_none : Every P none := by
  intro a ha
  cases ha

theorem every_some {a : α} (h : P a) : Every P (some a) := by
  intro b hb
  obtain rfl := Option.some.inj hb
  exact h

theorem every_bind {b? : Option β} {f : β → Option α} (hb : Every Q b?)
    (hf : ∀ b, Q b → Every P (f b)) : Every P (b?.bind f) := by
  intro a ha
  obtain ⟨b, hb?, hfb⟩ := Option.bind_eq_some_iff.1 ha
  exact hf b (hb b hb?) a hfb

theorem every_map {b? : Option β} {f : β → α} (hb : Every Q b?) (hf : ∀ b, Q b → P (f b)) :
    Every P (b?.map f) := by
  intro a ha
  obtain ⟨b, hb?, rfl⟩ := Option.map_eq_some_iff.1 ha
  exact hf b (hb b hb?)

theorem every_ite {p : Prop} [Decidable p] {a? b? : Option α} (ha : Every P a?)
    (hb : Every P b?) : Every P (if p then a? else b?) := by
  split
  · exact ha
  · exact hb

theorem every_or {a? b? : Option α} (ha : Every P a?) (hb : Every P b?) : Every P (a?.or b?) := by
  cases a? with
  | none => exact hb
  | some a => exact ha

/-- What holds before a run and is kept by each step holds after the run. -/
theorem every_foldlM {step : α → β → Option α} (hstep : ∀ a b, P a → Q b → Every P (step a b))
    {l : List β} (hl : ∀ b ∈ l, Q b) {a : α} (ha : P a) : Every P (l.foldlM step a) := by
  induction l generalizing a with
  | nil => exact every_some ha
  | cons b l ih =>
    rw [List.foldlM_cons]
    refine every_bind (hstep a b ha (hl b List.mem_cons_self)) fun a' ha' => ?_
    exact ih (fun c hc => hl c (List.mem_cons_of_mem b hc)) ha'

end Every

namespace Json

/-! ### Tokens -/

/-- A value that JSON can write: not a double that is infinite or no number. -/
def Writable : Literal → Prop
  | .float x => x.isFinite = true
  | _ => True

def Token.Holds : Token → Prop
  | .scalar value => Writable value
  | _ => True

/-- A numeral is a whole number or a finite double. -/
theorem writable_magnitude? (negative : Bool) (cs : List Char) :
    Every Writable (magnitude? negative cs) := by
  have hdouble : ∀ digits exponent,
      Every Writable (if (Binary64.ofDecimal negative digits exponent).isFinite then
        some (.float (Binary64.ofDecimal negative digits exponent)) else none) := by
    intro digits exponent
    split
    next hfinite => exact every_some hfinite
    next => exact every_none
  have hinteger : ∀ n, Every Writable (some (.integer n)) := fun n => every_some trivial
  have hany : ∀ {α : Type} (a? : Option α), Every (fun _ => True) a? := fun _ _ _ => trivial
  simp only [magnitude?]
  refine every_ite every_none ?_
  split
  · refine every_bind (hany _) fun n _ => every_ite ?_ ?_
    · exact every_ite (hinteger _) (hdouble _ _)
    · exact every_ite (hinteger _) (hdouble _ _)
  · refine every_ite every_none (every_bind (hany _) fun digits _ => ?_)
    exact every_bind (hany _) fun exponent _ => hdouble _ _
  · refine every_bind (hany _) fun digits _ => ?_
    exact every_bind (hany _) fun exponent _ => hdouble _ _

theorem writable_word? (cs : List Char) : Every Writable (word? cs) := by
  rw [word?]
  split
  · exact every_some trivial
  · exact every_some trivial
  · exact every_some trivial
  · rw [number?.eq_def]
    split <;> exact writable_magnitude? _ _

namespace Scan

/-- The finished tokens of a scan hold values that JSON can write. -/
def Holds (s : Scan) : Prop := ∀ t ∈ s.found, t.Holds

variable {found : List Token}

theorem holds_start (h : ∀ t ∈ found, t.Holds) (c : Char) : Every Holds (start found c) := by
  have hmark : ∀ t : Token, t.Holds → Holds ⟨.none, t :: found⟩ := fun t ht =>
    List.forall_mem_cons.2 ⟨ht, h⟩
  have hkept : ∀ pending, Every Holds (some ⟨pending, found⟩) := fun _ => every_some h
  rw [start.eq_def]
  split
  case h_12 => exact every_ite (hkept _) every_none
  -- marks first, then what is no token
  iterate 6 exact every_some (hmark _ trivial)
  all_goals exact hkept _

theorem holds_codeUnit (h : ∀ t ∈ found, t.Holds) (read : List Char) (high : Option Nat)
    (unit : Nat) : Every Holds (codeUnit read high unit found) := by
  have hkept : ∀ pending, Every Holds (some ⟨pending, found⟩) := fun _ => every_some h
  rw [codeUnit.eq_def]
  split
  · exact every_ite (hkept _) every_none
  · exact every_ite (hkept _) (every_ite every_none (hkept _))

/-- One character more. -/
theorem Holds.step {s : Scan} (h : s.Holds) (c : Char) : Every Holds (s.step c) := by
  have hkept : ∀ pending, Every Holds (some ⟨pending, s.found⟩) := fun _ => every_some h
  have hscalar : ∀ value, Writable value → ∀ t ∈ .scalar value :: s.found, t.Holds :=
    fun value hvalue => List.forall_mem_cons.2 ⟨hvalue, h⟩
  rw [Scan.step]
  cases s.pending with
  | none => exact holds_start h c
  | word read =>
    refine every_ite (hkept _) (every_bind (writable_word? _) fun value hvalue => ?_)
    exact holds_start (hscalar value hvalue) c
  | text read =>
    refine every_ite (every_some (hscalar _ trivial)) (every_ite (hkept _) ?_)
    exact every_ite every_none (hkept _)
  | escape read => exact every_ite (hkept _) (every_map (fun _ _ => trivial) fun _ _ => h)
  | codeUnit read high digits =>
    refine every_ite (hkept _) (every_bind (fun _ _ => trivial) fun unit _ => ?_)
    exact holds_codeUnit h read high unit
  | pair read high backslash =>
    exact every_ite (every_ite (hkept _) every_none) (every_ite (hkept _) every_none)

end Scan

/-- The tokens of a text hold values that JSON can write. -/
theorem writable_tokens? (text : String) : Every (fun ts => ∀ t ∈ ts, t.Holds) (tokens? text) := by
  have hstart : (⟨.none, []⟩ : Scan).Holds := by
    intro t ht
    cases ht
  have hrun : Every Scan.Holds (text.toList.foldlM Scan.step ⟨.none, []⟩) :=
    every_foldlM (fun _ c hs _ => hs.step c) (fun _ _ => trivial) hstart
  rw [tokens?]
  refine every_bind hrun fun s hs => ?_
  split
  next => exact every_some fun t ht => hs t (List.mem_reverse.1 ht)
  next read _ =>
    refine every_map (writable_word? _) fun value hvalue t ht => ?_
    have hscalar : ∀ t ∈ .scalar value :: s.found, t.Holds := List.forall_mem_cons.2 ⟨hvalue, hs⟩
    exact hscalar t (List.mem_reverse.1 ht)
  next => exact every_none

/-! ### Nodes -/

/-- The node of a document. -/
def IsDocument (n : Node) : Prop := ∃ d : Document, d.node = n

theorem isDocument_scalar {v : Literal} (h : Writable v) : IsDocument (.scalar (.fixed v)) := by
  cases v with
  | null => exact ⟨.null, rfl⟩
  | bool b => exact ⟨.bool b, rfl⟩
  | integer n => exact ⟨.integer n, rfl⟩
  | float x =>
    have hfinite : x.isFinite = true := h
    refine ⟨.float x, ?_⟩
    rw [Document.node, if_pos hfinite]
  | text s => exact ⟨.text s, rfl⟩

theorem isDocument_list {items : List Node} (h : ∀ n ∈ items, IsDocument n) :
    IsDocument (.list none items) := by
  obtain ⟨ds, rfl⟩ : ∃ ds : List Document, ds.map Document.node = items := by
    induction items with
    | nil => exact ⟨[], rfl⟩
    | cons n items ih =>
      obtain ⟨d, rfl⟩ := h n List.mem_cons_self
      obtain ⟨ds, rfl⟩ := ih fun m hm => h m (List.mem_cons_of_mem _ hm)
      exact ⟨d :: ds, rfl⟩
  exact ⟨.list ds, Document.node_list ds⟩

theorem isDocument_mapping {entries : List (String × Node)} (h : ∀ e ∈ entries, IsDocument e.2) :
    IsDocument (.mapping none (entries.map fun e => (.scalar (.fixed (.text e.1)), e.2))) := by
  obtain ⟨ms, hms⟩ : ∃ ms : List (String × Document),
      Document.memberNodes ms = entries.map fun e => (.scalar (.fixed (.text e.1)), e.2) := by
    induction entries with
    | nil => exact ⟨[], rfl⟩
    | cons e entries ih =>
      obtain ⟨d, hd⟩ := h e List.mem_cons_self
      obtain ⟨ms, hms⟩ := ih fun m hm => h m (List.mem_cons_of_mem _ hm)
      refine ⟨(e.1, d) :: ms, ?_⟩
      rw [Document.memberNodes, hd, hms, List.map_cons]
  refine ⟨.mapping ms, ?_⟩
  rw [Document.node, hms]

/-- Of several members with one name the last counts; it is a document as they all are. -/
theorem isDocument_mappingNode {entries : List (String × Node)}
    (h : ∀ e ∈ entries, IsDocument e.2) : IsDocument (mappingNode entries) := by
  refine isDocument_mapping fun e he => h e ?_
  exact List.mem_reverse.1 (Dictionary.mem_of_mem_entries_ofList he)

/-- An open collection holds documents. -/
def Frame.Filled : Frame → Prop
  | .list items => ∀ n ∈ items, IsDocument n
  | .mapping entries _ => ∀ e ∈ entries, IsDocument e.2

namespace Assembly

/-- All open collections hold documents, and so does what is complete. -/
structure Filled (a : Assembly) : Prop where
  frames : ∀ f ∈ a.frames, f.Filled
  result : ∀ n, a.expected = .nothing n → IsDocument n

variable {frames : List Frame}

/-- Before the end nothing is complete. -/
theorem filled_open (h : ∀ f ∈ frames, f.Filled) {expected : Expected}
    (hopen : ∀ n, expected ≠ .nothing n) : Filled ⟨frames, expected⟩ :=
  ⟨h, fun n hn => absurd hn (hopen n)⟩

theorem filled_put {n : Node} (h : ∀ f ∈ frames, f.Filled) (hn : IsDocument n) :
    Filled (put frames n) := by
  cases frames with
  | nil =>
    refine ⟨h, fun m hm => ?_⟩
    obtain rfl := Expected.nothing.inj hm
    exact hn
  | cons f outer =>
    obtain ⟨hf, houter⟩ := List.forall_mem_cons.1 h
    cases f with
    | list items =>
      have hitems : (Frame.list (n :: items)).Filled := List.forall_mem_cons.2 ⟨hn, hf⟩
      exact filled_open (List.forall_mem_cons.2 ⟨hitems, houter⟩) (by simp)
    | mapping entries name =>
      have hentries : (Frame.mapping ((name, n) :: entries) "").Filled :=
        List.forall_mem_cons.2 ⟨hn, hf⟩
      exact filled_open (List.forall_mem_cons.2 ⟨hentries, houter⟩) (by simp)

theorem filled_value (h : ∀ f ∈ frames, f.Filled) {t : Token} (ht : t.Holds) :
    Every Filled (value frames t) := by
  have hnew : ∀ f : Frame, f.Filled → ∀ g ∈ f :: frames, g.Filled := fun f hf =>
    List.forall_mem_cons.2 ⟨hf, h⟩
  cases t with
  | scalar v => exact every_some (filled_put h (isDocument_scalar ht))
  | openList =>
    exact every_ite (every_some (filled_open (hnew _ (by simp [Frame.Filled])) (by simp)))
      every_none
  | openMapping =>
    exact every_ite (every_some (filled_open (hnew _ (by simp [Frame.Filled])) (by simp)))
      every_none
  | closeList | closeMapping | colon | comma => exact every_none

theorem filled_close (h : ∀ f ∈ frames, f.Filled) (t : Token) :
    Every Filled (close frames t) := by
  rw [close.eq_def]
  split
  next items outer =>
    obtain ⟨hitems, houter⟩ := List.forall_mem_cons.1 h
    have hlist := isDocument_list fun n hn => hitems n (List.mem_reverse.1 hn)
    exact every_some (filled_put houter hlist)
  next entries name outer =>
    obtain ⟨hentries, houter⟩ := List.forall_mem_cons.1 h
    exact every_some (filled_put houter (isDocument_mappingNode hentries))
  next => exact every_none

theorem filled_name (h : ∀ f ∈ frames, f.Filled) (t : Token) : Every Filled (name frames t) := by
  rw [name.eq_def]
  split
  next entries name outer text =>
    obtain ⟨hentries, houter⟩ := List.forall_mem_cons.1 h
    have hnamed : (Frame.mapping entries text).Filled := hentries
    exact every_some (filled_open (List.forall_mem_cons.2 ⟨hnamed, houter⟩) (by simp))
  next => exact every_none

/-- One token more. -/
theorem Filled.step {a : Assembly} (h : a.Filled) {t : Token} (ht : t.Holds) :
    Every Filled (a.step t) := by
  have hopen : ∀ expected : Expected, (∀ n, expected ≠ .nothing n) →
      Every Filled (some ⟨a.frames, expected⟩) := fun expected hopen =>
    every_some (filled_open h.frames hopen)
  rw [Assembly.step.eq_def]
  cases a.expected with
  | value => exact filled_value h.frames ht
  | itemOrEnd => exact every_or (filled_close h.frames t) (filled_value h.frames ht)
  | nameOrEnd => exact every_or (filled_close h.frames t) (filled_name h.frames t)
  | name => exact filled_name h.frames t
  | colon => exact every_ite (hopen _ (by simp)) every_none
  | commaOrEnd =>
    simp only
    split
    · exact hopen _ (by simp)
    · exact hopen _ (by simp)
    · exact filled_close h.frames _
  | nothing n => exact every_none

end Assembly

/-- What a text spells is the node of a document. -/
theorem isDocument_read? (text : String) : Every IsDocument (read? text) := by
  have hstart : (⟨[], .value⟩ : Assembly).Filled :=
    Assembly.filled_open (fun f hf => by cases hf) (by simp)
  rw [read?]
  refine every_bind (writable_tokens? text) fun ts hts => ?_
  refine every_bind (every_foldlM (fun _ _ ha ht => ha.step ht) hts hstart) fun a ha => ?_
  split
  next result hresult => exact every_some (ha.result result hresult)
  next => exact every_none

end Json

end ShardManifest
