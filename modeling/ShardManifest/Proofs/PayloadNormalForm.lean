import ShardManifest.Kubernetes.Pod
import ShardManifest.Proofs.DictionaryRuns
import ShardManifest.Proofs.DocumentNodes

/-!
# Payloads in normal form

Reading a payload gives its normal form, and a normal form is read as it is. This holds of every
shape whose records have different names and that allows neither timestamps, whose years have bounds,
nor values of any kind; so it holds of containers and of claims.

## Main definitions

- `Shape.ReadsBack`: a document that is read as it is
- `Shape.isStable`, `Shape.Settles`: shapes for which the normal form is one
- `Payload.Conforms`: members as a reader leaves them

## Main results

- `Shape.settles_of_isStable`: what a stable shape reads is read back
- `Container.read?_node_document`, `ClaimSpec.read?_node_document`: what was read is read back
- `Volume.read?_node_document`: so is a volume, if the claim that it makes for its pod is
-/

namespace ShardManifest.Kubernetes

open Document

/-! ### Fields -/

/-- A document that a shape reads as it is, also where it may be left out. -/
def Shape.ReadsBack (shape : Shape) (d : Document) : Prop :=
  d.node.optional? shape.read? = some (some d)

theorem read_of_optional? {α : Type} {read : Node → Option α} {n : Node} {a : α}
    (h : n.optional? read = some (some a)) : read n = some a := by
  cases n with
  | scalar s =>
    rw [Node.optional?] at h
    split at h
    next => cases h
    next => simpa using h
    next => cases h
  | _ => simpa [Node.optional?] using h

theorem Shape.ReadsBack.read? {shape : Shape} {d : Document} (h : shape.ReadsBack d) :
    shape.read? d.node = some d :=
  read_of_optional? h

namespace Field

def shape : Field → Shape
  | optional _ shape | required _ shape => shape

/-- What a field holds: what is read under its name, or the zero of a required field. -/
def value? (entries : List (String × Node)) : Field → Option (Option Document)
  | optional name shape => lastOf? shape.read? name entries
  | required name shape =>
    (lastOf? shape.read? name entries).map fun d? => some (d?.getD shape.zero)

/-- Whether a field holds something that is read back. -/
def Holds : Field → Option Document → Prop
  | optional _ shape, d? => ∀ d, d? = some d → shape.ReadsBack d
  | required _ shape, d? => ∃ d, d? = some d ∧ shape.ReadsBack d

end Field

/-- A record is read field by field. -/
theorem readFields?_eq (fields : List Field) (entries : List (String × Node)) :
    readFields? fields entries =
      (fields.mapM fun f : Field => (f.value? entries).map (f.name, ·)).map present := by
  induction fields with
  | nil => rfl
  | cons f fields ih =>
    rw [List.mapM_cons]
    cases f with
    | optional name shape =>
      rw [readFields?, ih]
      cases hvalue : lastOf? shape.read? name entries with
      | none => simp [Field.value?, hvalue]
      | some d? =>
        cases fields.mapM fun f : Field => (f.value? entries).map (f.name, ·) with
        | none => simp [Field.value?, hvalue]
        | some rest => cases d? <;> simp [Field.value?, Field.name, hvalue, present]
    | required name shape =>
      rw [readFields?, ih]
      cases hvalue : lastOf? shape.read? name entries with
      | none => simp [Field.value?, hvalue]
      | some d? =>
        cases fields.mapM fun f : Field => (f.value? entries).map (f.name, ·) with
        | none => simp [Field.value?, hvalue]
        | some rest => simp [Field.value?, Field.name, hvalue, present]

/-- Under a name that occurs once at most the last value is the only one. -/
theorem lastOf?_of_nodup {α : Type} {read : Node → Option α} {ms : Members}
    (h : (ms.map Prod.fst).Nodup) (name : String) :
    lastOf? read name ms = (ms.lookup name).elim (some none) (Node.optional? read) := by
  rw [lastOf?, filter_name_of_nodup h]
  cases ms.lookup name with
  | none => rfl
  | some n => cases hn : n.optional? read <;> simp [hn]

theorem Field.value?_of_lookup {f : Field} {ms : Members} {d? : Option Document}
    (hms : (ms.map Prod.fst).Nodup) (hlookup : ms.lookup f.name = d?.map node)
    (hd : f.Holds d?) : f.value? ms = some d? := by
  cases f with
  | optional name shape =>
    have hlookup : ms.lookup name = d?.map node := hlookup
    rw [value?, lastOf?_of_nodup hms, hlookup]
    cases d? with
    | none => rfl
    | some d => exact hd d rfl
  | required name shape =>
    obtain ⟨d, rfl, hd⟩ := hd
    have hlookup : ms.lookup name = some d.node := hlookup
    rw [value?, lastOf?_of_nodup hms, hlookup, Option.elim_some, hd]
    rfl

/-- Fields are read as what they hold. -/
theorem readFields?_of_lookup {fields : List Field} {ms : Members} {value : Field → Option Document}
    (hms : (ms.map Prod.fst).Nodup) (hlookup : ∀ f ∈ fields, ms.lookup f.name = (value f).map node)
    (hvalue : ∀ f ∈ fields, f.Holds (value f)) :
    readFields? fields ms = some (present (fields.map fun f => (f.name, value f))) := by
  have hfields : (fields.mapM fun f : Field => (f.value? ms).map (f.name, ·)) =
      some (fields.map fun f => (f.name, value f)) := by
    refine mapM_eq_some_map fun f hf => ?_
    rw [Field.value?_of_lookup hms (hlookup f hf) (hvalue f hf), Option.map_some]
  rw [readFields?_eq, hfields, Option.map_some]

theorem Shape.readsBack_of_record {fields : List Field} {d : Document}
    (h : (record fields).read? d.node = some d) : (record fields).ReadsBack d := by
  have hread := h
  simp only [read?, Option.bind_eq_bind, Option.bind_eq_some_iff, Option.pure_def,
    Option.some.injEq] at h
  obtain ⟨entries, -, ms, -, rfl⟩ := h
  exact congrArg (Option.map some) hread

/-- What is read of a row of fields is what each field holds. -/
theorem exists_of_readFields? {fields : List Field} {entries : List (String × Node)}
    {ms : List (String × Document)} (h : readFields? fields entries = some ms) :
    ∃ value : Field → Option Document, ms = present (fields.map fun f => (f.name, value f)) ∧
      ∀ f ∈ fields, f.value? entries = some (value f) := by
  rw [readFields?_eq, Option.map_eq_some_iff] at h
  obtain ⟨held, hheld, rfl⟩ := h
  have hvalue : ∀ f ∈ fields, f.value? entries = some ((f.value? entries).getD none) := by
    intro f hf
    obtain ⟨b, hb⟩ := exists_of_mapM_eq_some hheld hf
    obtain ⟨d?, hd?, -⟩ := Option.map_eq_some_iff.1 hb
    rw [hd?]
    rfl
  refine ⟨fun f => (f.value? entries).getD none, ?_, hvalue⟩
  have hfields : (fields.mapM fun f : Field => (f.value? entries).map (f.name, ·)) =
      some (fields.map fun f : Field => (f.name, (f.value? entries).getD none)) := by
    refine mapM_eq_some_map fun f hf => ?_
    rw [hvalue f hf]
    rfl
  rw [hheld] at hfields
  rw [Option.some.inj hfields]

/-! ### Stable shapes -/

mutual

/-- Whether the shape has different names in each record, and neither timestamps nor values of any
kind. -/
def Shape.isStable : Shape → Bool
  | .text | .bool | .integer _ | .integerOrText => true
  | .timestamp | .anything => false
  | .list item => item.isStable
  | .map value => value.isStable
  | .record fields => decide (fields.map Field.name).Nodup && areStable fields

def areStable : List Field → Bool
  | [] => true
  | .optional _ shape :: rest => shape.isStable && areStable rest
  | .required _ shape :: rest => shape.isStable && areStable rest

end

/-- A shape whose readings are read back, and whose zero is. -/
structure Shape.Settles (shape : Shape) : Prop where
  read : ∀ n d, shape.read? n = some d → shape.ReadsBack d
  zero : shape.ReadsBack shape.zero

theorem exists_of_lastOf? {α : Type} {read : Node → Option α} {name : String}
    {entries : List (String × Node)} {a : α} (h : lastOf? read name entries = some (some a)) :
    ∃ n, read n = some a := by
  simp only [lastOf?, Option.bind_eq_bind, Option.bind_eq_some_iff, Option.pure_def,
    Option.some.injEq] at h
  obtain ⟨found, hfound, hlast⟩ := h
  have hmem : some a ∈ found := List.mem_of_getLast? (Option.join_eq_some_iff.1 hlast)
  obtain ⟨e, -, he⟩ := exists_of_mem_mapM hfound hmem
  exact ⟨e.2, read_of_optional? he⟩

/-- What a field of a settling shape is read as is read back. -/
theorem Field.holds_of_value? {f : Field} {entries : List (String × Node)} {d? : Option Document}
    (hshape : f.shape.Settles) (h : f.value? entries = some d?) : f.Holds d? := by
  cases f with
  | optional name shape =>
    rintro d rfl
    obtain ⟨n, hn⟩ := exists_of_lastOf? h
    exact hshape.read n d hn
  | required name shape =>
    obtain ⟨last?, hlast, rfl⟩ := Option.map_eq_some_iff.1 h
    cases last? with
    | none => exact ⟨shape.zero, rfl, hshape.zero⟩
    | some d =>
      obtain ⟨n, hn⟩ := exists_of_lastOf? hlast
      exact ⟨d, rfl, hshape.read n d hn⟩

/-- What a field holds where nothing is written. -/
def Field.blank : Field → Option Document
  | optional _ _ => none
  | required _ shape => some shape.zero

theorem zeros_eq_present (fields : List Field) :
    zeros fields = present (fields.map fun f => (f.name, f.blank)) := by
  induction fields with
  | nil => rfl
  | cons f fields ih =>
    cases f with
    | optional name shape =>
      rw [zeros, ih]
      rfl
    | required name shape =>
      rw [zeros, ih]
      rfl

theorem Field.holds_blank {f : Field} (hshape : f.shape.Settles) : f.Holds f.blank := by
  cases f with
  | optional name shape => simp [Holds, blank]
  | required name shape => exact ⟨shape.zero, rfl, hshape.zero⟩

namespace Shape

theorem settles_text : Settles .text where
  read n d h := by
    obtain ⟨s, -, rfl⟩ := Option.map_eq_some_iff.1 h
    rfl
  zero := rfl

theorem settles_bool : Settles .bool where
  read n d h := by
    obtain ⟨b, -, rfl⟩ := Option.map_eq_some_iff.1 h
    rfl
  zero := rfl

theorem readsBack_integer {bits : Nat} {n : Int} (h : fits bits n = true) :
    ReadsBack (.integer bits) (.integer n) := by
  have hread : (integer bits).read? (Document.integer n).node = some (.integer n) := if_pos h
  exact congrArg (Option.map some) hread

theorem fits_zero (bits : Nat) : fits bits 0 = true := by
  have hpos : 0 < Nat.pow 2 (bits - 1) := Nat.pow_pos Nat.two_pos
  simp only [fits, Bool.and_eq_true, decide_eq_true_eq]
  omega

theorem settles_integer (bits : Nat) : Settles (.integer bits) where
  read n d h := by
    simp only [Shape.read?, Option.bind_eq_bind, Option.bind_eq_some_iff] at h
    obtain ⟨m, -, h⟩ := h
    split at h
    next hfits =>
      cases h
      exact readsBack_integer hfits
    next => cases h
  zero := readsBack_integer (fits_zero bits)

theorem settles_integerOrText : Settles .integerOrText where
  read n d h := by
    cases n with
    | scalar s =>
      rw [Shape.read?, integerOrText?] at h
      split at h
      next m _ =>
        split at h
        next hfits =>
          cases h
          have hread : integerOrText.read? (Document.integer m).node = some (.integer m) :=
            if_pos hfits
          exact congrArg (Option.map some) hread
        next => cases h
      next =>
        cases h
        rfl
      next => cases h
    | _ => cases h
  zero := rfl

theorem readsBack_list {item : Shape} {ds : List Document} (h : ∀ d ∈ ds, item.ReadsBack d) :
    ReadsBack (.list item) (.list ds) := by
  have hitems : (Document.list (ds.map id)).node.listOf? item.read? = some ds :=
    listOf?_node_list fun d hd => (h d hd).read?
  rw [List.map_id] at hitems
  have hread : (Shape.list item).read? (Document.list ds).node = some (.list ds) := by
    rw [Shape.read?, hitems]
    rfl
  rw [node_list] at hread
  rw [ReadsBack, node_list]
  exact congrArg (Option.map some) hread

theorem Settles.list {item : Shape} (h : item.Settles) : Settles (.list item) where
  read n d hread := by
    simp only [Shape.read?, Node.listOf?, Option.bind_eq_bind, Option.map_eq_some_iff,
      Option.bind_eq_some_iff] at hread
    obtain ⟨ds, ⟨ns, -, hds⟩, rfl⟩ := hread
    refine readsBack_list fun d hd => ?_
    obtain ⟨m, -, hm⟩ := exists_of_mem_mapM hds hd
    exact h.read m d hm
  zero := rfl

theorem readsBack_map {value : Shape} {d : Dictionary Document}
    (h : ∀ e ∈ d.entries, value.ReadsBack e.2) : ReadsBack (.map value) (.mapping d.entries) := by
  have hentries : (membersOf (d.entries.map fun e => (e.1, id e.2))).mapM
      (fun e => (value.read? e.2).map (e.1, ·)) = some d.entries :=
    mapM_membersOf_entries fun e he => (h e he).read?
  have hid : (d.entries.map fun e => (e.1, id e.2)) = d.entries := List.map_id _
  rw [hid] at hentries
  have hread : (Shape.map value).read? (Document.mapping d.entries).node =
      some (.mapping d.entries) := by
    rw [Shape.read?, entries?_node_mapping]
    simp only [Option.bind_eq_bind, Option.bind_some, hentries, Document.ofEntries,
      Dictionary.ofList_entries]
    rfl
  exact congrArg (Option.map some) hread

theorem Settles.map {value : Shape} (h : value.Settles) : Settles (.map value) where
  read n d hread := by
    simp only [Shape.read?, Option.bind_eq_bind, Option.bind_eq_some_iff, Option.pure_def,
      Option.some.injEq] at hread
    obtain ⟨entries, -, found, hfound, rfl⟩ := hread
    refine readsBack_map fun e he => ?_
    obtain ⟨m, -, hm⟩ := exists_of_mem_mapM hfound (Dictionary.mem_of_mem_entries_ofList he)
    obtain ⟨d, hd, rfl⟩ := Option.map_eq_some_iff.1 hm
    exact h.read m.2 d hd
  zero := rfl

theorem lookup_fields {fields : List Field} (value : Field → Option Document)
    (hnames : (fields.map Field.name).Nodup) {f : Field} (hf : f ∈ fields) :
    (fields.map fun f => (f.name, value f)).lookup f.name = some (value f) := by
  induction fields with
  | nil => cases hf
  | cons g fields ih =>
    obtain ⟨hname, hrest⟩ := List.nodup_cons.1 hnames
    rcases List.mem_cons.1 hf with rfl | hf
    · simp
    · have hne : f.name ≠ g.name := fun heq => hname (heq ▸ List.mem_map_of_mem hf)
      rw [List.map_cons, Dictionary.lookup_cons_of_ne hne, ih hrest hf]

/-- A row of fields that hold what is read back is read back as a record. -/
theorem readsBack_record {fields : List Field} {value : Field → Option Document}
    (hnames : (fields.map Field.name).Nodup) (hvalue : ∀ f ∈ fields, f.Holds (value f)) :
    ReadsBack (.record fields) (.mapping (present (fields.map fun f => (f.name, value f)))) := by
  let row : Row := ⟨fields.map fun f => (f.name, value f), by rwa [List.map_map]⟩
  have hlookup : ∀ f ∈ fields, row.members.lookup f.name = (value f).map node := by
    intro f hf
    rw [Row.lookup_members, lookup_fields value hnames hf]
    rfl
  have hread : (Shape.record fields).read? row.document.node = some row.document := by
    rw [Shape.read?, row.entries?_node_document]
    simp only [Option.bind_eq_bind, Option.bind_some,
      readFields?_of_lookup row.nodup_names_members hlookup hvalue]
    rfl
  exact congrArg (Option.map some) hread

theorem settles_record {fields : List Field} (hnames : (fields.map Field.name).Nodup)
    (h : ∀ f ∈ fields, f.shape.Settles) : Settles (.record fields) where
  read n d hread := by
    simp only [Shape.read?, Option.bind_eq_bind, Option.bind_eq_some_iff, Option.pure_def,
      Option.some.injEq] at hread
    obtain ⟨entries, -, ms, hms, rfl⟩ := hread
    obtain ⟨value, rfl, hvalue⟩ := exists_of_readFields? hms
    exact readsBack_record hnames fun f hf => Field.holds_of_value? (h f hf) (hvalue f hf)
  zero := by
    rw [Shape.zero, zeros_eq_present]
    exact readsBack_record hnames fun f hf => Field.holds_blank (h f hf)

mutual

theorem settles_of_isStable : ∀ shape : Shape, shape.isStable = true → shape.Settles
  | .text, _ => settles_text
  | .bool, _ => settles_bool
  | .integer bits, _ => settles_integer bits
  | .integerOrText, _ => settles_integerOrText
  | .timestamp, h => by cases h
  | .anything, h => by cases h
  | .list item, h => (settles_of_isStable item h).list
  | .map value, h => (settles_of_isStable value h).map
  | .record fields, h => by
    rw [isStable, Bool.and_eq_true, decide_eq_true_eq] at h
    exact settles_record h.1 (settles_of_areStable fields h.2)

theorem settles_of_areStable : ∀ fields : List Field, areStable fields = true →
    ∀ f ∈ fields, f.shape.Settles
  | [], _, _, hf => by cases hf
  | .optional name shape :: rest, h, f, hf => by
    rw [areStable, Bool.and_eq_true] at h
    rcases List.mem_cons.1 hf with rfl | hf
    · exact settles_of_isStable shape h.1
    · exact settles_of_areStable rest h.2 f hf
  | .required name shape :: rest, h, f, hf => by
    rw [areStable, Bool.and_eq_true] at h
    rcases List.mem_cons.1 hf with rfl | hf
    · exact settles_of_isStable shape h.1
    · exact settles_of_areStable rest h.2 f hf

end

end Shape

/-! ### Payloads -/

/-- A payload that has nothing beside its fields, each of which holds what is read back. -/
structure Payload.Conforms (fields : List Field) (p : Payload) : Prop where
  named : ∀ name ∉ fields.map Field.name, p.get? name = none
  holds : ∀ f ∈ fields, f.Holds (p.get? f.name)

namespace Payload

variable {fields : List Field} {p : Payload}

theorem names_fields (value : Field → Option Document) :
    ((fields.map fun f => (f.name, value f)).map Prod.fst) = fields.map Field.name := by
  rw [List.map_map]
  rfl

theorem get?_ofList_present (hnames : (fields.map Field.name).Nodup)
    (value : Field → Option Document) (name : String) :
    (Dictionary.ofList (present (fields.map fun f => (f.name, value f)))).get? name =
      ((fields.map fun f => (f.name, value f)).lookup name).join := by
  have hnodup : ((fields.map fun f => (f.name, value f)).map Prod.fst).Nodup := by
    rwa [names_fields]
  rw [Dictionary.get?_ofList_of_nodup ((names_present_sublist _).nodup hnodup),
    lookup_present hnodup]

theorem lookup_fields_of_not_mem {name : String} (value : Field → Option Document)
    (h : name ∉ fields.map Field.name) :
    (fields.map fun f => (f.name, value f)).lookup name = none := by
  rw [List.lookup_eq_none_iff]
  intro e he
  have hmem : e.1 ∈ fields.map Field.name := by
    rw [← names_fields value]
    exact List.mem_map_of_mem he
  have hne : name ≠ e.1 := fun heq => h (heq ▸ hmem)
  simpa using hne

theorem conforms_of_read? {entries : List (String × Node)} (hnames : (fields.map Field.name).Nodup)
    (hread : read? fields entries = some p)
    (hholds : ∀ f ∈ fields, f.value? entries = some (p.get? f.name) → f.Holds (p.get? f.name)) :
    p.Conforms fields := by
  rw [read?, Option.map_eq_some_iff] at hread
  obtain ⟨ms, hms, rfl⟩ := hread
  obtain ⟨value, rfl, hvalue⟩ := exists_of_readFields? hms
  constructor
  · intro name hname
    rw [get?_ofList_present hnames, lookup_fields_of_not_mem value hname]
    rfl
  · intro f hf
    have hget := get?_ofList_present hnames value f.name
    rw [Shape.lookup_fields value hnames hf] at hget
    refine hholds f hf ?_
    rw [hget, hvalue f hf]
    rfl

theorem conforms_of_isStable {entries : List (String × Node)}
    (hnames : (fields.map Field.name).Nodup) (hstable : areStable fields = true)
    (hread : read? fields entries = some p) : p.Conforms fields :=
  conforms_of_read? hnames hread fun f hf hvalue =>
    Field.holds_of_value? (Shape.settles_of_areStable fields hstable f hf) hvalue

/-- A payload is read back where its fields are found. -/
theorem Conforms.read?_of_lookup {ms : Members} (h : p.Conforms fields)
    (hnames : (fields.map Field.name).Nodup) (hms : (ms.map Prod.fst).Nodup)
    (hlookup : ∀ f ∈ fields, ms.lookup f.name = (p.get? f.name).map node) :
    read? fields ms = some p := by
  have hread := readFields?_of_lookup hms hlookup h.holds
  have hpayload : Dictionary.ofList (present (fields.map fun f => (f.name, p.get? f.name))) = p := by
    refine Dictionary.ext_get? fun name => ?_
    rw [get?_ofList_present hnames fun f => p.get? f.name]
    by_cases hname : name ∈ fields.map Field.name
    · obtain ⟨f, hf, rfl⟩ := List.mem_map.1 hname
      rw [Shape.lookup_fields (fun f => p.get? f.name) hnames hf]
      rfl
    · rw [lookup_fields_of_not_mem _ hname, h.named name hname]
      rfl
  rw [read?, hread, Option.map_some, hpayload]

end Payload

/-! ### Ports and mounts -/

section Rows

variable {α : Type} {row : Row} {name : String} {read : Node → Option α} {write : α → Document}

theorem lastOf?_members {value : Option α} (hfield : row.fields.lookup name = some (value.map write))
    (hread : ∀ a, (write a).node.optional? read = some (some a)) :
    lastOf? read name row.members = some value := by
  rw [lastOf?_of_nodup row.nodup_names_members, Row.lookup_members, hfield]
  cases value with
  | none => rfl
  | some a => exact hread a

theorem lastOf?_members_always {d : Document} {a : α}
    (hfield : row.fields.lookup name = some (some d))
    (hread : d.node.optional? read = some (some a)) :
    lastOf? read name row.members = some (some a) := by
  rw [lastOf?_of_nodup row.nodup_names_members, Row.lookup_members, hfield]
  exact hread

theorem textOrEmpty?_members {s : String} (hfield : row.fields.lookup name = some (some (.text s))) :
    textOrEmpty? name row.members = some s := by
  rw [textOrEmpty?, lastOf?_members_always hfield (optional?_node_text s)]
  rfl

end Rows

theorem fits_toInt (n : Int32) : fits 32 n.toInt = true := by
  have hlower := n.le_toInt
  have hupper := n.toInt_lt
  have hhalf : Nat.pow 2 (32 - 1) = 2147483648 := rfl
  simp only [fits, hhalf, Bool.and_eq_true, decide_eq_true_eq]
  omega

theorem optional?_node_int32 (n : Int32) :
    (integer n.toInt).node.optional? int32? = some (some n) := by
  have hread : int32? (integer n.toInt).node = some n := by
    have hinteger : (integer n.toInt).node.integer? = some n.toInt := rfl
    rw [int32?, hinteger]
    simp only [Option.bind_eq_bind, Option.bind_some]
    rw [if_pos (fits_toInt n), Int32.ofInt_toInt]
  exact congrArg (Option.map some) hread

namespace VolumeMount

def row (m : VolumeMount) : Row where
  fields := [("mountPath", some (.text m.mountPath)),
    ("mountPropagation", m.mountPropagation.map .text), ("name", some (.text m.name)),
    ("readOnly", m.readOnly.map .bool), ("recursiveReadOnly", m.recursiveReadOnly.map .text),
    ("subPath", m.subPath.map .text), ("subPathExpr", m.subPathExpr.map .text)]
  nodup := by simp

theorem document_eq_row (m : VolumeMount) : m.document = m.row.document := by
  rw [document, always_eq_present, whenSet_eq_present, always_eq_present, whenSet_eq_present,
    whenSet_eq_present, whenSet_eq_present, whenSet_eq_present]
  simp only [present_append]
  rfl

theorem read?_node_document (m : VolumeMount) : read? m.document.node = some m := by
  rw [document_eq_row, read?, Row.entries?_node_document]
  simp only [Option.bind_eq_bind, Option.bind_some]
  rw [textOrEmpty?_members rfl, lastOf?_members rfl optional?_node_text, textOrEmpty?_members rfl,
    lastOf?_members rfl optional?_node_bool, lastOf?_members rfl optional?_node_text,
    lastOf?_members rfl optional?_node_text, lastOf?_members rfl optional?_node_text]
  rfl

end VolumeMount

namespace ContainerPort

def row (p : ContainerPort) : Row where
  fields := [("containerPort", some (.integer p.containerPort.toInt)),
    ("hostIP", p.hostIP.map .text), ("hostPort", p.hostPort.map fun n => .integer n.toInt),
    ("name", p.name.map .text), ("protocol", p.protocol.map .text)]
  nodup := by simp

theorem document_eq_row (p : ContainerPort) : p.document = p.row.document := by
  rw [document, always_eq_present, whenSet_eq_present, whenSet_eq_present, whenSet_eq_present,
    whenSet_eq_present]
  simp only [present_append]
  rfl

theorem read?_node_document (p : ContainerPort) : read? p.document.node = some p := by
  rw [document_eq_row, read?, Row.entries?_node_document]
  simp only [Option.bind_eq_bind, Option.bind_some]
  rw [lastOf?_members_always rfl (optional?_node_int32 p.containerPort),
    lastOf?_members rfl optional?_node_text, lastOf?_members rfl optional?_node_int32,
    lastOf?_members rfl optional?_node_text, lastOf?_members rfl optional?_node_text]
  rfl

end ContainerPort

/-! ### Containers, claims and volumes -/

theorem Field.name_ne {fields : List Field} {f : Field} (hf : f ∈ fields) (name : String)
    (hname : name ∉ fields.map Field.name) : f.name ≠ name := by
  intro heq
  have hmem : f.name ∈ fields.map Field.name := List.mem_map_of_mem hf
  exact hname (heq ▸ hmem)

namespace Payload

variable {p : Payload} {name key : String}

theorem get?_withText (value : String) :
    (p.withText name value).get? key = if key = name then some (.text value) else p.get? key :=
  Dictionary.get?_insert p name key (.text value)

theorem get?_withOptional {α : Type} (write : α → Document) (value : Option α) :
    (p.withOptional name write value).get? key =
      if key = name then (value.map write).or (p.get? key) else p.get? key := by
  cases value with
  | none => simp [withOptional]
  | some a => exact Dictionary.get?_insert p name key (write a)

theorem nodup_names_entries (p : Payload) : ((membersOf p.entries).map Prod.fst).Nodup := by
  rw [names_membersOf]
  exact p.keys_pairwise.imp String.ne_of_lt

theorem lastOf?_entries {α : Type} {read : Node → Option α} {write : α → Document}
    {value : Option α} (hget : p.get? name = value.map write)
    (hread : ∀ a, value = some a → (write a).node.optional? read = some (some a)) :
    lastOf? read name (membersOf p.entries) = some value := by
  have hlookup : (membersOf p.entries).lookup name = (p.get? name).map node :=
    lookup_membersOf p.entries name
  rw [lastOf?_of_nodup p.nodup_names_entries, hlookup, hget]
  cases value with
  | none => rfl
  | some a => exact hread a rfl

theorem textOrEmpty?_entries {s : String} (hget : p.get? name = some (.text s)) :
    textOrEmpty? name (membersOf p.entries) = some s := by
  have hget : p.get? name = (some s).map Document.text := hget
  rw [textOrEmpty?, lastOf?_entries hget fun s _ => optional?_node_text s]
  rfl

/-- A payload is read back from a larger one that has the same under the names of its fields. -/
theorem Conforms.read?_entries {fields : List Field} {whole : Payload} (h : p.Conforms fields)
    (hnames : (fields.map Field.name).Nodup)
    (hget : ∀ f ∈ fields, whole.get? f.name = p.get? f.name) :
    read? fields (membersOf whole.entries) = some p := by
  refine h.read?_of_lookup hnames whole.nodup_names_entries fun f hf => ?_
  rw [← hget f hf]
  exact lookup_membersOf whole.entries f.name

end Payload

namespace Container

/-- All members of a container. -/
def payload (c : Container) : Payload :=
  (((c.other.withText "name" c.name).withOptional "image" .text c.image).withOptional "ports"
    (fun ps => .list (ps.map ContainerPort.document)) c.ports).withOptional "volumeMounts"
    (fun ms => .list (ms.map VolumeMount.document)) c.volumeMounts

theorem conforms_of_read? {n : Node} {c : Container} (h : read? n = some c) :
    c.other.Conforms Shapes.containerFields := by
  simp only [read?, Option.bind_eq_bind, Option.bind_eq_some_iff, Option.pure_def,
    Option.some.injEq] at h
  obtain ⟨entries, -, _, -, _, -, _, -, _, -, other, hother, rfl⟩ := h
  exact Payload.conforms_of_isStable (by decide) (by decide +kernel) hother

theorem get?_payload {c : Container} (h : c.other.Conforms Shapes.containerFields) :
    c.payload.get? "name" = some (.text c.name) ∧
    c.payload.get? "image" = c.image.map .text ∧
    c.payload.get? "ports" = c.ports.map (fun ps => .list (ps.map ContainerPort.document)) ∧
    c.payload.get? "volumeMounts" =
      c.volumeMounts.map fun ms => .list (ms.map VolumeMount.document) := by
  -- the members that the compiler looks at are none of the others
  have himage := h.named "image" (by decide)
  have hports := h.named "ports" (by decide)
  have hmounts := h.named "volumeMounts" (by decide)
  simp [payload, Payload.get?_withOptional, Payload.get?_withText, himage, hports, hmounts]

theorem get?_payload_of_mem (c : Container) {f : Field} (hf : f ∈ Shapes.containerFields) :
    c.payload.get? f.name = c.other.get? f.name := by
  simp only [payload, Payload.get?_withOptional, Payload.get?_withText,
    Field.name_ne hf "name" (by decide), Field.name_ne hf "image" (by decide),
    Field.name_ne hf "ports" (by decide), Field.name_ne hf "volumeMounts" (by decide), if_false]

/-- A container that was read is read back. -/
theorem read?_node_document {n : Node} {c : Container} (h : read? n = some c) :
    read? c.document.node = some c := by
  have hother := conforms_of_read? h
  obtain ⟨hname, himage, hports, hmounts⟩ := get?_payload hother
  have hentries : c.document.node.entries? = some (membersOf c.payload.entries) :=
    entries?_node_mapping _
  rw [read?, hentries]
  simp only [Option.bind_eq_bind, Option.bind_some]
  rw [Payload.textOrEmpty?_entries hname,
    Payload.lastOf?_entries himage fun s _ => optional?_node_text s,
    Payload.lastOf?_entries hports fun ps _ =>
      optional?_node_list fun p _ => ContainerPort.read?_node_document p,
    Payload.lastOf?_entries hmounts fun ms _ =>
      optional?_node_list fun m _ => VolumeMount.read?_node_document m,
    hother.read?_entries (by decide) fun f hf => c.get?_payload_of_mem hf]
  rfl

end Container

theorem ClaimSpec.settles : Shapes.persistentVolumeClaimSpec.Settles :=
  Shape.settles_of_isStable _ (by decide +kernel)

/-- A claim that was read is read back. -/
theorem ClaimSpec.read?_node_document {n : Node} {c : ClaimSpec} (h : read? n = some c) :
    read? c.document.node = some c := by
  obtain ⟨d, hd, rfl⟩ := Option.map_eq_some_iff.1 h
  exact congrArg (Option.map ClaimSpec.mk) (settles.read n d hd).read?

theorem ClaimSpec.read?_node_empty : read? empty.document.node = some empty :=
  congrArg (Option.map ClaimSpec.mk) settles.zero.read?

namespace ConfigMapSource

/-- All members of the source of a volume. -/
def payload (s : ConfigMapSource) : Payload := s.other.withText "name" s.name

theorem read?_node_document {n : Node} {s : ConfigMapSource} (h : read? n = some s) :
    read? s.document.node = some s := by
  simp only [read?, Option.bind_eq_bind, Option.bind_eq_some_iff, Option.pure_def,
    Option.some.injEq] at h
  obtain ⟨entries, -, name, -, other, hread, rfl⟩ := h
  have hother : other.Conforms Shapes.configMapSourceFields :=
    Payload.conforms_of_isStable (by decide) (by decide +kernel) hread
  have hname : (other.withText "name" name).get? "name" = some (.text name) :=
    Dictionary.get?_insert_self other "name" (.text name)
  have hrest : ∀ f ∈ Shapes.configMapSourceFields,
      (other.withText "name" name).get? f.name = other.get? f.name := fun f hf =>
    Dictionary.get?_insert_of_ne (Field.name_ne hf "name" (by decide)) other (.text name)
  have hentries : (document ⟨name, other⟩).node.entries? =
      some (membersOf (other.withText "name" name).entries) := entries?_node_mapping _
  rw [read?, hentries]
  simp only [Option.bind_eq_bind, Option.bind_some]
  rw [Payload.textOrEmpty?_entries hname, hother.read?_entries (by decide) hrest]
  rfl

theorem optional?_node_document {n : Node} {s : ConfigMapSource} (h : read? n = some s) :
    s.document.node.optional? read? = some (some s) :=
  congrArg (Option.map some) (read?_node_document h)

end ConfigMapSource

namespace Volume

def payload (v : Volume) : Payload :=
  (v.other.withText "name" v.name).withOptional "configMap" ConfigMapSource.document v.configMap

/-- The claims that a volume makes for its pod are read back. They have timestamps. -/
def EphemeralSurvives (v : Volume) : Prop :=
  ∀ d, v.other.get? "ephemeral" = some d → Shapes.ephemeralVolumeSource.read? d.node = some d

theorem conforms_of_read? {n : Node} {v : Volume} (h : read? n = some v)
    (hephemeral : v.EphemeralSurvives) : v.other.Conforms Shapes.volumeFields := by
  simp only [read?, Option.bind_eq_bind, Option.bind_eq_some_iff, Option.pure_def,
    Option.some.injEq] at h
  obtain ⟨entries, -, _, -, _, -, other, hother, rfl⟩ := h
  have hnames : (Shapes.volumeFields.map Field.name).Nodup := by decide
  refine Payload.conforms_of_read? hnames hother fun f hf hvalue => ?_
  by_cases hname : f.name = "ephemeral"
  · have hmem : Field.optional "ephemeral" Shapes.ephemeralVolumeSource ∈ Shapes.volumeFields := by
      simp [Shapes.volumeFields]
    obtain rfl := List.inj_on_of_nodup_map hnames hf hmem hname
    intro d hd
    exact Shape.readsBack_of_record (hephemeral d hd)
  · have hstable : areStable (Shapes.volumeFields.filter fun f => f.name ≠ "ephemeral") = true := by
      decide +kernel
    have hkept : f ∈ Shapes.volumeFields.filter fun f => f.name ≠ "ephemeral" := by
      simp [hf, hname]
    exact Field.holds_of_value? (Shape.settles_of_areStable _ hstable f hkept) hvalue

/-- A volume that was read is read back if the claims that it makes are. -/
theorem read?_node_document {n : Node} {v : Volume} (h : read? n = some v)
    (hephemeral : v.EphemeralSurvives) : read? v.document.node = some v := by
  have hother := conforms_of_read? h hephemeral
  have hname : v.payload.get? "name" = some (.text v.name) := by
    simp [payload, Payload.get?_withOptional, Payload.get?_withText]
  have hconfigMap : v.payload.get? "configMap" = v.configMap.map ConfigMapSource.document := by
    simp [payload, Payload.get?_withOptional, Payload.get?_withText,
      hother.named "configMap" (by decide)]
  have hsource : ∀ s, v.configMap = some s →
      s.document.node.optional? ConfigMapSource.read? = some (some s) := by
    simp only [read?, Option.bind_eq_bind, Option.bind_eq_some_iff, Option.pure_def,
      Option.some.injEq] at h
    obtain ⟨entries, -, _, -, configMap, hread, _, -, rfl⟩ := h
    rintro s rfl
    obtain ⟨m, hm⟩ := exists_of_lastOf? hread
    exact ConfigMapSource.optional?_node_document hm
  have hrest : ∀ f ∈ Shapes.volumeFields, v.payload.get? f.name = v.other.get? f.name := by
    intro f hf
    simp only [payload, Payload.get?_withOptional, Payload.get?_withText,
      Field.name_ne hf "name" (by decide), Field.name_ne hf "configMap" (by decide), if_false]
  have hentries : v.document.node.entries? = some (membersOf v.payload.entries) :=
    entries?_node_mapping _
  rw [read?, hentries]
  simp only [Option.bind_eq_bind, Option.bind_some]
  rw [Payload.textOrEmpty?_entries hname, Payload.lastOf?_entries hconfigMap hsource,
    hother.read?_entries (by decide) hrest]
  rfl

end Volume

end ShardManifest.Kubernetes
