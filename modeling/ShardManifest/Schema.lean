import ShardManifest.Source.Value

/-!
# Schemas

A schema says what a resource may hold. It is a row of attributes, which are written in the order of
their names.

## Main definitions

- `Schema`: schemas by what they allow
- `SchemaField`, `Schema.record`: schemas of records
-/

namespace ShardManifest

abbrev Schema := Dictionary Document

namespace Schema

def document (s : Schema) : Document := .mapping s.entries

/-- A schema with an explanation in place of its own. -/
def described (description : String) (s : Schema) : Schema :=
  s.insert "description" (.text description)

def ofType (name : String) : Schema := Dictionary.ofList [("type", .text name)]

/-- The values of one type in a format of numbers. -/
def ofFormat (name format : String) : Schema := (ofType name).insert "format" (.text format)

def text : Schema := ofType "string"

def truth : Schema := ofType "boolean"

def integer (format : String) : Schema := ofFormat "integer" format

def natural (format : String) : Schema :=
  (integer format).insert "minimum" (.float (.zero false))

def number (format : String) : Schema := ofFormat "number" format

/-- Anything that another resource may hold. -/
def payload : Schema :=
  (ofType "object").insert "x-kubernetes-preserve-unknown-fields" (.bool true)

def choice (names : List String) : Schema := text.insert "enum" (.list (names.map .text))

def listOf (item : Schema) : Schema := (ofType "array").insert "items" item.document

def mapOf (value : Schema) : Schema :=
  (ofType "object").insert "additionalProperties" value.document

/-- What one of several schemas allows. -/
def anyOf (alternatives : List Schema) : Schema :=
  Dictionary.ofList [("anyOf", .list (alternatives.map document))]

end Schema

/-- Whether a member of a record has to be there. -/
inductive Presence where
  | required
  /-- It may be missing, and it may be null. -/
  | nullable
  /-- It may be missing, and then stands for a default. -/
  | defaulted (value : Document)
  /-- It may be missing, and then is empty. -/
  | optional

structure SchemaField where
  name : String
  description : String
  presence : Presence
  schema : Schema

namespace SchemaField

/-- The schema of a member, with what the record says about it. -/
def attributes (f : SchemaField) : Schema :=
  let s := f.schema.described f.description
  match f.presence with
  | .nullable => s.insert "nullable" (.bool true)
  | .defaulted (.mapping members) => s.insert "default" (.ofEntries members)
  | .defaulted value => s.insert "default" value
  | .required | .optional => s

/-- Whether a member has to be there. -/
def isRequired (f : SchemaField) : Bool :=
  match f.presence with
  | .required => true
  | _ => false

end SchemaField

def Schema.record (fields : List SchemaField) : Schema :=
  let s := (ofType "object").insert "properties"
    (.ofEntries (fields.map fun f => (f.name, f.attributes.document)))
  let required := fields.filter SchemaField.isRequired
  if required.isEmpty then s
  else s.insert "required" (.list (required.map fun f => .text f.name))

end ShardManifest
