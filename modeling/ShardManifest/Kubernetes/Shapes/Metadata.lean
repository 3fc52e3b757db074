import ShardManifest.Kubernetes.Shape

/-!
# Shapes of metadata and references

What an object's metadata may hold, and how one object names another.
-/

namespace ShardManifest.Kubernetes.Shapes

def ownerReference : Shape :=
  .record
    [ .required "apiVersion" .text,
      .optional "blockOwnerDeletion" .bool,
      .optional "controller" .bool,
      .required "kind" .text,
      .required "name" .text,
      .required "uid" .text ]

/-- What one manager set on an object. -/
def managedFieldsEntry : Shape :=
  .record
    [ .optional "apiVersion" .text,
      .optional "fieldsType" .text,
      .optional "fieldsV1" .anything,
      .optional "manager" .text,
      .optional "operation" .text,
      .optional "subresource" .text,
      .optional "time" .timestamp ]

/-- What the metadata of an object may hold. -/
def objectMetaFields : List Field :=
  [ .optional "annotations" (.map .text),
    .optional "creationTimestamp" .timestamp,
    .optional "deletionGracePeriodSeconds" (.integer 64),
    .optional "deletionTimestamp" .timestamp,
    .optional "finalizers" (.list .text),
    .optional "generateName" .text,
    .optional "generation" (.integer 64),
    .optional "labels" (.map .text),
    .optional "managedFields" (.list managedFieldsEntry),
    .optional "name" .text,
    .optional "namespace" .text,
    .optional "ownerReferences" (.list ownerReference),
    .optional "resourceVersion" .text,
    .optional "selfLink" .text,
    .optional "uid" .text ]

def objectMeta : Shape := .record objectMetaFields

def labelSelectorRequirement : Shape :=
  .record
    [ .required "key" .text,
      .required "operator" .text,
      .optional "values" (.list .text) ]

def labelSelector : Shape :=
  .record
    [ .optional "matchExpressions" (.list labelSelectorRequirement),
      .optional "matchLabels" (.map .text) ]

/-- An object of the same namespace. -/
def localObjectReference : Shape :=
  .record
    [ .required "name" .text ]

/-- An object of the same namespace with its kind. -/
def typedLocalObjectReference : Shape :=
  .record
    [ .optional "apiGroup" .text,
      .required "kind" .text,
      .required "name" .text ]

/-- An object of any namespace with its kind. -/
def typedObjectReference : Shape :=
  .record
    [ .optional "apiGroup" .text,
      .required "kind" .text,
      .required "name" .text,
      .optional "namespace" .text ]

end ShardManifest.Kubernetes.Shapes
