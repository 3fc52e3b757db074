import ShardManifest.Yaml.Token
import ShardManifest.Yaml.Tree

/-!
# From tokens to trees

A document is put together by one pass over its tokens. An `Assembly` holds the collections that are
open and what may come next; each token either finishes a node, which then takes its place in the
innermost collection, or opens or closes a collection. Where a node may stand and the token belongs
to what is behind it, a blank scalar takes the place.

## Main definitions

- `Yaml.Frame`, `Yaml.Assembly`: what is open
- `Yaml.Assembly.step?`: one token
- `Yaml.document?`: the tree of a text's only document
-/

namespace ShardManifest.Yaml

/-- The part of a pair that comes next. -/
inductive Slot where
  | key
  /-- A key without mark, whose value is blank. -/
  | bare
  | value (key : Tree)
deriving Repr

/-- How the end of a list shows. -/
inductive ListKind where
  | block
  /-- By the next key of the mapping whose column it shares. -/
  | flush
  | flow
deriving DecidableEq, Repr

/-- A collection that is open; what it holds so far is newest first. -/
inductive Frame where
  | list (kind : ListKind) (properties : Properties) (items : List Tree)
  /-- A mapping that is laid out by indentation. -/
  | blockMapping (properties : Properties) (entries : List (Tree × Tree)) (slot : Slot)
  | flowMapping (properties : Properties) (entries : List (Tree × Tree)) (slot : Slot)
  /-- A mapping of one pair as an item of a list between brackets. -/
  | pair (slot : Slot)
deriving Repr

inductive Phase where
  /-- Directives, or the document. -/
  | opening
  /-- More directives, or the mark before the document. -/
  | directives
  | content
  /-- A node of the innermost collection, or what follows it. -/
  | node
  /-- More properties of a node, or the node. -/
  | properties (p : Properties)
  /-- What follows a node of the innermost collection. -/
  | between
  | finished (root : Tree)
  | closed (root : Option Tree)
deriving Repr

structure Assembly where
  /-- The open collections, innermost first. -/
  frames : List Frame
  phase : Phase
  /-- The names of anchors with their numbers; a name that is used again has its last number. -/
  anchors : List (String × Nat)
  /-- The version, if a directive names one. -/
  version : Option (Nat × Nat)
  shorthands : List (String × String)
deriving Repr

namespace Assembly

def start : Assembly := ⟨[], .opening, [], none, []⟩

/-- Puts a finished node into its place in the innermost collection. -/
def put (t : Tree) (a : Assembly) : Assembly :=
  match a.frames with
  | [] => { a with phase := .finished t }
  | .list kind p items :: outer =>
    { a with frames := .list kind p (t :: items) :: outer, phase := .between }
  | .blockMapping p entries (.value key) :: outer =>
    { a with frames := .blockMapping p ((key, t) :: entries) .key :: outer, phase := .between }
  | .blockMapping p entries _ :: outer =>
    { a with frames := .blockMapping p entries (.value t) :: outer, phase := .between }
  | .flowMapping p entries slot :: outer =>
    match slot with
    | .key =>
      { a with frames := .flowMapping p entries (.value t) :: outer, phase := .between }
    | .bare =>
      let entry := (t, Tree.blank .none)
      { a with frames := .flowMapping p (entry :: entries) .bare :: outer, phase := .between }
    | .value key =>
      { a with frames := .flowMapping p ((key, t) :: entries) .bare :: outer, phase := .between }
  | .pair (.value key) :: .list kind p items :: outer =>
    let item := Tree.mapping .none [(key, t)]
    { a with frames := .list kind p (item :: items) :: outer, phase := .between }
  | .pair _ :: outer => { a with frames := .pair (.value t) :: outer, phase := .between }

/-- Puts a scalar of which nothing is written. -/
def putBlank (a : Assembly) : Assembly := a.put (.blank .none)

def push (f : Frame) (a : Assembly) : Assembly :=
  { a with frames := f :: a.frames, phase := .node }

/-- Goes on with another part of the innermost collection. -/
def within (f : Frame) (outer : List Frame) (a : Assembly) : Assembly :=
  { a with frames := f :: outer, phase := .node }

def close (t : Tree) (outer : List Frame) (a : Assembly) : Assembly :=
  { a with frames := outer }.put t

/-- The tag that a handle and a suffix stand for. -/
def tag? (handle suffix : String) (a : Assembly) : Option String :=
  if handle.isEmpty then some suffix
  else
    match a.shorthands.lookup handle with
    | some expansion => some (expansion ++ suffix)
    | none =>
      if handle = "!" then some ("!" ++ suffix)
      else if handle = "!!" then some (coreTag suffix)
      else none

/-- Where a key of a mapping may come that is laid out by indentation. -/
def blockKey? (p : Properties) (entries : List (Tree × Tree)) (outer : List Frame) (a : Assembly) :
    Token → Option Assembly
  | .key => some (a.within (.blockMapping p entries .key) outer)
  | .blockEnd => some (a.close (.mapping p entries.reverse) outer)
  | _ => none

/-- Where the colon of a value may come in such a mapping. -/
def blockValue? (p : Properties) (entries : List (Tree × Tree)) (key : Tree) (outer : List Frame)
    (a : Assembly) : Token → Option Assembly
  | .value => some (a.within (.blockMapping p entries (.value key)) outer)
  | t => a.blockKey? p ((key, .blank .none) :: entries) outer t

/-- Where the innermost collection is such a mapping. -/
def inBlockMapping? (a : Assembly) (t : Token) : Option Assembly :=
  match a.frames with
  | .blockMapping p entries (.value key) :: outer => a.blockValue? p entries key outer t
  | .blockMapping p entries _ :: outer => a.blockKey? p entries outer t
  | _ => none

/-- Where something may come behind an entry of a list between brackets. -/
def flowListNext? (p : Properties) (items : List Tree) (outer : List Frame) (a : Assembly) :
    Token → Option Assembly
  | .comma => some (a.within (.list .flow p items) outer)
  | .flowListEnd => some (a.close (.list p items.reverse) outer)
  | _ => none

/-- Where something may come behind an entry of a mapping between braces. -/
def flowMappingNext? (p : Properties) (entries : List (Tree × Tree)) (outer : List Frame)
    (a : Assembly) : Token → Option Assembly
  | .comma => some (a.within (.flowMapping p entries .bare) outer)
  | .flowMappingEnd => some (a.close (.mapping p entries.reverse) outer)
  | _ => none

/-- A token behind a node of the innermost collection. -/
def between? (a : Assembly) (t : Token) : Option Assembly :=
  match a.frames with
  | .list .block p items :: outer =>
    match t with
    | .item => some (a.within (.list .block p items) outer)
    | .blockEnd => some (a.close (.list p items.reverse) outer)
    | _ => none
  | .list .flush p items :: outer =>
    match t with
    | .item => some (a.within (.list .flush p items) outer)
    | t => (a.close (.list p items.reverse) outer).inBlockMapping? t
  | .list .flow p items :: outer => a.flowListNext? p items outer t
  | .flowMapping p entries (.value key) :: outer =>
    match t with
    | .value => some (a.within (.flowMapping p entries (.value key)) outer)
    | t => a.flowMappingNext? p ((key, .blank .none) :: entries) outer t
  | .flowMapping p entries _ :: outer => a.flowMappingNext? p entries outer t
  | .pair (.value key) :: .list kind p items :: outer =>
    match t with
    | .value => some (a.within (.pair (.value key)) (.list kind p items :: outer))
    | t => a.flowListNext? p (.mapping .none [(key, .blank .none)] :: items) outer t
  | .blockMapping _ _ _ :: _ => a.inBlockMapping? t
  | _ => none

/-- A token behind the document: marks of its end, and the end of the text. -/
def finished? (root : Tree) (a : Assembly) : Token → Option Assembly
  | .documentEnd => some { a with phase := .finished root }
  | .ending => some { a with phase := .closed (some root) }
  | _ => none

/-- A token behind a node, wherever the node stands. -/
def after? (a : Assembly) (t : Token) : Option Assembly :=
  match a.phase with
  | .finished root => a.finished? root t
  | .between => a.between? t
  | _ => none

/-- Whether a node may be laid out by indentation, and whether it may be a list in the column of its
mapping. -/
def layouts (a : Assembly) : Bool × Bool :=
  match a.frames with
  | .blockMapping _ _ _ :: _ => (true, true)
  | [] | .list .block _ _ :: _ | .list .flush _ _ :: _ => (true, false)
  | _ => (false, false)

/-- A token where a node begins that has some properties. -/
def node? (p : Properties) (a : Assembly) (t : Token) : Option Assembly :=
  let (block, flush) := a.layouts
  let otherwise := if p = .none then none else (a.put (.blank p)).after? t
  match t with
  | .repeats name =>
    if p = .none then (a.anchors.lookup name).map fun n => a.put (.repeats n) else otherwise
  | .anchor name =>
    if p.anchor.isSome then otherwise
    else
      let n := a.anchors.length
      some { a with
        phase := .properties { p with anchor := some n }
        anchors := (name, n) :: a.anchors.filter fun e => e.1 ≠ name }
  | .tag handle suffix =>
    if p.tag.isSome then otherwise
    else (a.tag? handle suffix).map fun tag =>
      { a with phase := .properties { p with tag := some tag } }
  | .scalar text style =>
    let p := if p.tag = some "!" then { p with tag := none } else p
    some (a.put (.scalar p text style))
  | .flowList => some (a.push (.list .flow p []))
  | .flowMapping => some (a.push (.flowMapping p [] .bare))
  | .blockList =>
    if block then some { a.push (.list .block p []) with phase := .between } else otherwise
  | .blockMapping =>
    if block then some { a.push (.blockMapping p [] .key) with phase := .between } else otherwise
  | .item => if flush then some (a.push (.list .flush p [])) else otherwise
  | _ => otherwise

/-- A token where a node of the innermost collection may begin. -/
def entry? (a : Assembly) (t : Token) : Option Assembly :=
  match a.frames with
  | .list .block _ _ :: _ =>
    if t ∈ [.item, .blockEnd] then a.putBlank.after? t else a.node? .none t
  | .list .flush _ _ :: _ =>
    if t ∈ [.item, .key, .value, .blockEnd] then a.putBlank.after? t else a.node? .none t
  | .list .flow p items :: outer =>
    match t with
    | .key => some (a.push (.pair .key))
    | .flowListEnd => some (a.close (.list p items.reverse) outer)
    | t => a.node? .none t
  | .blockMapping _ _ _ :: _ =>
    if t ∈ [.key, .value, .blockEnd] then a.putBlank.after? t else a.node? .none t
  | .flowMapping p entries .bare :: outer =>
    match t with
    | .key => some (a.within (.flowMapping p entries .key) outer)
    | .flowMappingEnd => some (a.close (.mapping p entries.reverse) outer)
    | t => a.node? .none t
  | .flowMapping _ _ .key :: _ =>
    if t ∈ [.value, .comma, .flowMappingEnd] then a.putBlank.after? t else a.node? .none t
  | .flowMapping _ _ (.value _) :: _ =>
    if t ∈ [.comma, .flowMappingEnd] then a.putBlank.after? t else a.node? .none t
  | .pair (.value _) :: _ =>
    if t ∈ [.comma, .flowListEnd] then a.putBlank.after? t else a.node? .none t
  | .pair _ :: _ =>
    -- a mark in the place of the key is passed over together with the key
    if t ∈ [.value, .comma, .flowListEnd] then some a.putBlank else a.node? .none t
  | [] => a.node? .none t

/-- A directive, of which none may be repeated. -/
def directive? (a : Assembly) : Token → Option Assembly
  | .version major minor =>
    if a.version.isNone && major = 1 && (minor = 1 || minor = 2) then
      some { a with phase := .directives, version := some (major, minor) }
    else none
  | .shorthand handle expansion =>
    if (a.shorthands.lookup handle).isNone then
      some { a with phase := .directives, shorthands := (handle, expansion) :: a.shorthands }
    else none
  | .documentStart => some { a with phase := .content }
  | _ => none

def step? (a : Assembly) (t : Token) : Option Assembly :=
  match a.phase with
  | .opening =>
    if t = .ending then some { a with phase := .closed none }
    else (a.directive? t).or ({ a with phase := .node }.node? .none t)
  | .directives => a.directive? t
  | .content =>
    match t with
    | .documentEnd | .ending => a.putBlank.after? t
    | t => a.node? .none t
  | .node => a.entry? t
  | .properties p => a.node? p t
  | .between | .finished _ => a.after? t
  | .closed _ => none

end Assembly

/-- The tree of a text's only document, and how many numbers it bears at most; a text without any
document stands for a blank scalar. -/
def document? (tokens : List Token) : Option (Tree × Nat) := do
  let a ← tokens.foldlM Assembly.step? .start
  match a.phase with
  | .closed root => some (root.getD (.blank .none), a.anchors.length)
  | _ => none

end ShardManifest.Yaml
