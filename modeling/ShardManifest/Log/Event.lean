/-!
# What a compilation reports

A compilation reports what it skips, replaces and builds. An `Event` names the occurrence; its
severity, its message and its fields are functions of it.

## Main definitions

- `Severity`, `Event`
- `Logged`: a value together with what was reported while it was computed
-/

namespace ShardManifest

/-- How much attention an event asks for. -/
inductive Severity where
  | error
  /-- Something that was declared has no effect. -/
  | warn
  | info
  | debug
deriving DecidableEq, Repr

namespace Severity

def name : Severity → String
  | error => "ERROR"
  | warn => "WARN"
  | info => "INFO"
  | debug => "DEBUG"

/-- How far down a severity is. -/
def rank : Severity → Nat
  | error => 0
  | warn => 1
  | info => 2
  | debug => 3

end Severity

inductive Event where
  | replicaWalked (deployment cluster : String) (shard replica : Nat)
  /-- A pod template replaces an earlier one of its name. -/
  | podTemplateRepeated (template : String)
  /-- A claim template replaces an earlier one of its name. -/
  | claimTemplateRepeated (template : String)
  /-- A replica selects a pod template that the library does not declare. -/
  | podTemplateUndeclared (deployment template : String)
  /-- A replica selects a claim template that the library does not declare. -/
  | claimTemplateUndeclared (deployment template : String)
  /-- The path of a setting names no element. -/
  | pathEmpty (path : String)
  /-- The path of a setting has a segment that cannot be an element. -/
  | pathInvalid (path element : String)
  | fragmentEmpty (filename : String)
  /-- Everything that objects are built from is at hand. -/
  | contextReady (installation : String) (deployments fingerprints sections : Nat)
  /-- The Service of the installation is built. -/
  | installationService (service : String)
  /-- The Service of a replica is built. -/
  | replicaService (service deployment : String)
  | commonConfigMap (configMap : String) (sections : Nat)
  /-- The ConfigMap of a replica is built. -/
  | macrosConfigMap (configMap deployment : String)
  /-- A StatefulSet takes its containers from a template. -/
  | podTemplateUsed (statefulSet template : String)
  | defaultContainerUsed (statefulSet : String)
  /-- A StatefulSet takes its claim from a template. -/
  | claimTemplateUsed (statefulSet template : String)
  | compiled (installation inNamespace : String)
      (deployments services configMaps statefulSets : Nat)
deriving DecidableEq, Repr

namespace Event

def severity : Event → Severity
  | podTemplateRepeated _ | claimTemplateRepeated _ => .warn
  | podTemplateUndeclared _ _ | claimTemplateUndeclared _ _ => .warn
  | pathEmpty _ | pathInvalid _ _ => .warn
  | compiled _ _ _ _ _ _ => .info
  | _ => .debug

def message : Event → String
  | replicaWalked _ _ _ _ => "walked replica"
  | podTemplateRepeated _ => "duplicate pod template, last declaration wins"
  | claimTemplateRepeated _ => "duplicate volume claim template, last declaration wins"
  | podTemplateUndeclared _ _ => "pod template not declared, using default container"
  | claimTemplateUndeclared _ _ => "volume claim template not declared, using no claim"
  | pathEmpty _ => "setting path has no elements, skipping"
  | pathInvalid _ _ => "setting path has an invalid element name, skipping"
  | fragmentEmpty _ => "config section empty, skipping"
  | contextReady _ _ _ _ => "compile context ready"
  | installationService _ => "building installation service"
  | replicaService _ _ => "building pod service"
  | commonConfigMap _ _ => "building common config map"
  | macrosConfigMap _ _ => "building macros config map"
  | podTemplateUsed _ _ => "using pod template"
  | defaultContainerUsed _ => "using default container"
  | claimTemplateUsed _ _ => "using volume claim template"
  | compiled _ _ _ _ _ _ => "compiled installation"

/-- The fields of an event with their texts. -/
def fields : Event → List (String × String)
  | replicaWalked deployment cluster shard replica =>
    [("deployment", deployment), ("cluster", cluster), ("shard", toString shard),
      ("replica", toString replica)]
  | podTemplateRepeated template | claimTemplateRepeated template => [("template", template)]
  | podTemplateUndeclared deployment template | claimTemplateUndeclared deployment template =>
    [("deployment", deployment), ("template", template)]
  | pathEmpty path => [("path", path)]
  | pathInvalid path element => [("path", path), ("element", element)]
  | fragmentEmpty filename => [("filename", filename)]
  | contextReady installation deployments fingerprints sections =>
    [("chi", installation), ("deployments", toString deployments),
      ("fingerprints", toString fingerprints), ("sections", toString sections)]
  | installationService service => [("service", service)]
  | replicaService service deployment => [("service", service), ("deployment", deployment)]
  | commonConfigMap configMap sections =>
    [("config_map", configMap), ("sections", toString sections)]
  | macrosConfigMap configMap deployment =>
    [("config_map", configMap), ("deployment", deployment)]
  | podTemplateUsed statefulSet template =>
    [("stateful_set", statefulSet), ("template", template)]
  | defaultContainerUsed statefulSet => [("stateful_set", statefulSet)]
  | claimTemplateUsed statefulSet template =>
    [("stateful_set", statefulSet), ("template", template)]
  | compiled installation inNamespace deployments services configMaps statefulSets =>
    [("chi", installation), ("namespace", inNamespace), ("deployments", toString deployments),
      ("services", toString services), ("config_maps", toString configMaps),
      ("stateful_sets", toString statefulSets)]

end Event

/-- A value together with what was reported while it was computed, oldest first. -/
structure Logged (α : Type) where
  value : α
  events : List Event
deriving Repr

namespace Logged

instance : Monad Logged where
  pure a := ⟨a, []⟩
  bind x f := ⟨(f x.value).value, x.events ++ (f x.value).events⟩

def report (e : Event) : Logged Unit := ⟨(), [e]⟩

variable {α β : Type}

@[simp] theorem value_pure (a : α) : (pure a : Logged α).value = a := rfl

@[simp] theorem events_pure (a : α) : (pure a : Logged α).events = [] := rfl

@[simp] theorem value_bind (x : Logged α) (f : α → Logged β) :
    (x >>= f).value = (f x.value).value := rfl

@[simp] theorem events_bind (x : Logged α) (f : α → Logged β) :
    (x >>= f).events = x.events ++ (f x.value).events := rfl

@[simp] theorem value_map (f : α → β) (x : Logged α) : (f <$> x).value = f x.value := rfl

@[simp] theorem events_map (f : α → β) (x : Logged α) : (f <$> x).events = x.events := by
  change x.events ++ [] = x.events
  rw [List.append_nil]

@[simp] theorem value_report (e : Event) : (report e).value = () := rfl

@[simp] theorem events_report (e : Event) : (report e).events = [e] := rfl

instance : LawfulMonad Logged :=
  LawfulMonad.mk' Logged
    (fun x => by cases x; simp [Functor.map])
    (fun a f => by simp [bind, pure])
    (fun x f g => by simp [bind])

end Logged

end ShardManifest
