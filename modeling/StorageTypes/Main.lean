import StorageTypes.Cli.Run

namespace StorageTypes.Cli

def isTooLong (path : String) : Bool :=
  pathLimit < (plainPath path).utf8ByteSize
    || (pathParts path).any fun part => nameLimit < part.utf8ByteSize

def readFile (path : String) : IO (Except FileFault String) := do
  let plain := plainPath path
  if Disk.holdsNull path then return .error (.absent path)
  if isTooLong path then return .error (.nameTooLong plain)
  if ← (System.mkFilePath [plain]).pathExists then
    if ← (System.mkFilePath [plain]).isDir then return .error (.isDirectory plain)
    return .ok (← IO.FS.readFile plain)
  else return .error (.absent path)

def writeFile (path text : String) : IO (Except FileFault Unit) := do
  let plain := plainPath path
  if Disk.holdsNull path then return .error .nullCharacter
  if isTooLong path then return .error (.nameTooLong plain)
  if ← (System.mkFilePath [plain]).isDir then return .error (.isDirectory plain)
  try
    IO.FS.writeFile plain text
    return .ok ()
  catch
    | .inappropriateType _ _ _ => return .error (.notDirectory plain)
    | _ => return .error (.noParent plain)

def printReport (report : Report) : IO UInt32 := do
  IO.print report.output.out
  IO.eprint report.output.err
  return UInt32.ofNat report.exit

end StorageTypes.Cli

open StorageTypes.Cli in
def main (arguments : List String) : IO UInt32 := do
  let _ : StorageTypes.ImportPath.Host := .bare
  let _ : StorageTypes.Terminal.Markup := .tags
  let environment : Environment :=
    ⟨← IO.getEnv "TYPEGEN_SCHEMA", ← IO.getEnv "TYPEGEN_PK_TYPE"⟩
  match Invocation.parse environment arguments with
  | none => printReport misunderstood
  | some invocation =>
    let path := invocation.path environment
    match invocation.run path (← readFile path) with
    | .finished report => printReport report
    | .writing path text ending => printReport (ending (← writeFile path text))
