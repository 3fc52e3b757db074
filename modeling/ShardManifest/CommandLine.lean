import ShardManifest.Compilation
import ShardManifest.Definition
import ShardManifest.Yaml.Printer
import ShardManifest.Yaml.Reader

/-!
# The command line

The program compiles the installation of a file and writes its objects, or lists the hosts of its
replicas, or writes the definition of the resource. Options take their value from the same argument,
behind an equals sign or directly behind a letter, or from the next argument, which must not look like
an option then. No option may be repeated. What an option leaves open the environment may say.

## Main definitions

- `Invocation`, `Invocation.parse?`: what the arguments ask for
- `Invocation.respond`: what the program writes
-/

namespace ShardManifest

/-- What is done with an installation. -/
inductive Task where
  | compile
  /-- A line for each replica is written: the StatefulSet, the host, and the qualified host. -/
  | hosts
deriving DecidableEq, Repr

namespace Task

def ofName? (name : String) : Option Task :=
  if name = "compile" then some compile
  else if name = "hosts" then some hosts
  else none

end Task

/-- The options of a task, as far as they are given. -/
structure TaskOptions where
  file : Option String
  inNamespace : Option String
  /-- The image of a container that no template describes. -/
  defaultImage : Option String
deriving DecidableEq, Repr

inductive Invocation where
  | help
  | version
  /-- To write the definition of the resource. -/
  | definition
  | nothing
  /-- To do something with the installation of a file. -/
  | task (kind : Task) (file : String) (options : Options)
deriving DecidableEq, Repr

/-- Why the arguments ask for nothing that can be done. -/
inductive Halt where
  | rejected
  | help
deriving DecidableEq, Repr

/-- The environment variable that names the namespace. -/
def namespaceVariable : String := "CHOP_NAMESPACE"

/-- The environment variable that names the image. -/
def imageVariable : String := "CHOP_DEFAULT_IMAGE"

namespace TaskOptions

def none : TaskOptions := ⟨.none, .none, .none⟩

/-- Sets the option of a name, which must not be set. The name of a file is not empty. -/
def set (o : TaskOptions) (name value : String) : Except Halt TaskOptions :=
  if name = "file" then
    if o.file.isSome || value.isEmpty then .error .rejected else .ok { o with file := some value }
  else if name = "namespace" then
    if o.inNamespace.isSome then .error .rejected else .ok { o with inNamespace := some value }
  else if name = "default-image" then
    if o.defaultImage.isSome then .error .rejected else .ok { o with defaultImage := some value }
  else .error .rejected

end TaskOptions

inductive Argument where
  /-- Two hyphens, behind which nothing is an option. -/
  | escape
  /-- A name behind two hyphens, with a value if there is an equals sign. -/
  | long (name : String) (value : Option String)
  /-- A letter behind a hyphen, and what follows it. -/
  | short (letter : Char) (rest : List Char)
  /-- Anything else; a hyphen alone is no option. -/
  | plain (text : String)
deriving DecidableEq, Repr

namespace Argument

def ofText (text : String) : Argument :=
  match text.toList with
  | ['-', '-'] => escape
  | '-' :: '-' :: cs =>
    let name := cs.takeWhile (· ≠ '=')
    let value? :=
      match cs.dropWhile (· ≠ '=') with
      | _ :: value => some (String.ofList value)
      | [] => none
    long (String.ofList name) value?
  | '-' :: letter :: rest => short letter rest
  | _ => plain text

/-- The value that stands behind the letter of an option. -/
def attached? : List Char → Option String
  | [] => none
  | '=' :: value => some (String.ofList value)
  | value => some (String.ofList value)

end Argument

namespace TaskOptions

/-- The option that an argument names, with its value if the argument holds it. -/
def named (a : Argument) : Except Halt (String × Option String) :=
  match a with
  | .long name value? =>
    if name = "help" then .error (if value?.isSome then .rejected else .help)
    else if name ∈ ["file", "namespace", "default-image"] then .ok (name, value?)
    else .error .rejected
  | .short letter rest =>
    if letter = 'h' then .error .help
    else if letter = 'f' then .ok ("file", Argument.attached? rest)
    else .error .rejected
  | .escape | .plain _ => .error .rejected

/-- The options that arguments give in addition to others. -/
def parse (o : TaskOptions) : List String → Except Halt TaskOptions
  | [] => .ok o
  | text :: rest =>
    let argument := Argument.ofText text
    if argument = .escape then if rest.isEmpty then .ok o else .error .rejected
    else
      match named argument with
      | .error halt => .error halt
      | .ok (name, some value) =>
        match o.set name value with
        | .ok o => parse o rest
        | .error halt => .error halt
      | .ok (name, .none) =>
        match rest with
        | [] => .error .rejected
        | value :: behind =>
          match Argument.ofText value with
          | .plain value =>
            match o.set name value with
            | .ok o => parse o behind
            | .error halt => .error halt
          | _ => .error .rejected

end TaskOptions

namespace Invocation

/-- The task that its arguments and the environment describe. -/
def ofTask (environment : String → Option String) (kind : Task) (arguments : List String) :
    Except Halt Invocation := do
  let o ← TaskOptions.none.parse arguments
  let some file := o.file | .error .rejected
  return .task kind file {
    inNamespace := o.inNamespace.or (environment namespaceVariable)
    defaultImage := (o.defaultImage.or (environment imageVariable)).getD Names.defaultImage }

/-- Whether an explanation can be asked for behind the word for it. -/
def isHelpTopic : List String → Bool
  | [] => true
  | [topic] => (Task.ofName? topic).isSome || topic = "help"
  | _ => false

/-- What arguments ask for; `definition` says whether the definition has been asked for. -/
def parseFrom (environment : String → Option String) (definition : Bool) :
    List String → Except Halt Invocation
  | [] => .ok (if definition then .definition else .nothing)
  | text :: rest =>
    match Argument.ofText text with
    | .escape =>
      if rest.isEmpty then .ok (if definition then .definition else .nothing)
      else .error .rejected
    | .long name value? =>
      if value?.isSome then .error .rejected
      else if name = "crd" then
        if definition then .error .rejected else parseFrom environment true rest
      else if name = "version" then .ok .version
      else if name = "help" then .ok .help
      else .error .rejected
    | .short letter _ =>
      if letter = 'V' then .ok .version
      else if letter = 'h' then .ok .help
      else .error .rejected
    | .plain word =>
      match Task.ofName? word with
      | some kind => do
        let task ← ofTask environment kind rest
        return if definition then .definition else task
      | none => if word = "help" && isHelpTopic rest then .ok .help else .error .rejected

/-- What arguments ask for, unless they cannot be understood. -/
def parse? (environment : String → Option String) (arguments : List String) : Option Invocation :=
  match parseFrom environment false arguments with
  | .ok i => some i
  | .error .help => some .help
  | .error .rejected => none

/-- The file that has to be read. -/
def file? : Invocation → Option String
  | task _ file _ => some file
  | _ => none

end Invocation

/-- How the program ends. -/
inductive Response where
  | success (output : String)
  /-- It writes nothing but why it failed. -/
  | failure (message : String)
  /-- It breaks off before it writes anything. -/
  | breakdown (message : String)
deriving DecidableEq, Repr

namespace Installation

/-- The lines that list the hosts of an installation's replicas. -/
def hostLines (i : Installation) (o : Options) (deployments : List String) : String :=
  String.join <| deployments.map fun d =>
    Names.statefulSet d ++ "\t" ++ Names.podHost d ++ "\t"
      ++ Names.qualifiedHost (i.targetNamespace o) d ++ "\n"

/-- What is written for an installation. -/
def perform (i : Installation) (o : Options) : Task → Except Fault String
  | .compile => do
    let objects ← (i.compile o).run.value
    return Yaml.printAll objects.documents
  | .hosts => do
    let b ← (i.basis o).run.value
    return i.hostLines o b.deployments

end Installation

namespace Invocation

/-- The name and version of the program. -/
def versionText : String := "chop 0.1.0\n"

def helpText : String :=
  "chop - compiles ClickHouseInstallation resources into Kubernetes manifests\n\n"
  ++ "Usage: chop [--crd] [compile|hosts -f FILE [--namespace NAME] [--default-image IMAGE]]\n"

/-- What the program writes, given the text of the file that it has to read, if that can be read. -/
def respond (content? : Option String) : Invocation → Response
  | help => .success helpText
  | version => .success versionText
  | definition => .success (Yaml.print Definition.document ++ "\n")
  | nothing => .failure "no command given, see --help"
  | task kind file options =>
    match content? with
    | none => .failure ("Failed to read " ++ file)
    | some content =>
      match Yaml.read? content >>= Installation.read? with
      | none => .failure ("Failed to parse ClickHouseInstallation from " ++ file)
      | some i =>
        match i.perform options kind with
        | .ok output => .success output
        | .error .capacityOverflow => .breakdown Fault.capacityOverflow.message
        | .error fault => .failure fault.message

end Invocation

end ShardManifest
