import PoolPlan.Command.Compile
import PoolPlan.Command.Definition

namespace PoolPlan.Main
open Command

def usage : String := "usage: tessera [--json-logs] compile --worker FILE --config FILE --kubernetes-version VERSION
         [--credentials FILE | --secrets-from-cluster] [--provider kubevirt|openstack]
         [--cloud-profile NAME] [--pod-network CIDR] [--output yaml|json]
       tessera [--json-logs] crd
"

def fileFault : IO.Error → FileFault
  | .inappropriateType .. => .isDirectory
  | _ => .notFound

def readFile (path : String) : IO (Except FileFault String) := do
  try
    let bytes ← IO.FS.readBinFile path
    match Utf8.decode bytes.data.toList with
    | .ok text => return .ok text
    | .error _ => return .error .notText
  catch e => return .error (fileFault e)

def paths (args : CompileArguments) : List String := [args.worker, args.config] ++ args.credentials.toList

def readFiles (args : CompileArguments) : IO Files := do
  let texts ← (paths args).mapM (fun path => return (path, ← readFile path))
  return fun path => (texts.lookup path).getD (.error .notFound)

def logEvents (events : List Event) : IO Unit := events.forM (fun e => IO.eprintln e.toJson.text)

def run (invocation : Invocation) : IO UInt32 := do
  match invocation.action with
  | .definition =>
    IO.print definitionText
    return 0
  | .compile args =>
    let planned := compile (← readFiles args) args
    if invocation.jsonLogs then logEvents planned.events
    match planned.result with
    | .ok text =>
      IO.print text
      return 0
    | .error fault =>
      IO.eprintln s!"Error: {fault.message}"
      return 1

end PoolPlan.Main

open PoolPlan in
def main (words : List String) : IO UInt32 := do
  match Command.Invocation.ofWords words with
  | .ok invocation => Main.run invocation
  | .error .help =>
    IO.print Main.usage
    return 0
  | .error .version =>
    IO.println "tessera 0.1.0"
    return 0
  | .error fault =>
    IO.eprint s!"error: {fault.name}\n\n{Main.usage}"
    return 2
