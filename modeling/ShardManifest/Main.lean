import ShardManifest.CommandLine

/-!
# The program

Reads the arguments, the environment and the file they name, and writes what the library answers.
Arguments that cannot be understood end the program with exit code 2, failures with exit code 1, and
a breakdown with exit code 101.
-/

open ShardManifest

def main (arguments : List String) : IO UInt32 := do
  let inNamespace ← IO.getEnv namespaceVariable
  let image ← IO.getEnv imageVariable
  let environment (name : String) : Option String :=
    if name = namespaceVariable then inNamespace
    else if name = imageVariable then image
    else none
  match Invocation.parse? environment arguments with
  | none =>
    IO.eprint Invocation.helpText
    return 2
  | some invocation =>
    let content? ←
      match invocation.file? with
      | some file => try pure (some (← IO.FS.readFile file)) catch _ => pure none
      | none => pure none
    match invocation.respond content? with
    | .success output =>
      IO.print output
      return 0
    | .failure message =>
      IO.eprintln ("Error: " ++ message)
      return 1
    | .breakdown message =>
      IO.eprintln message
      return 101
