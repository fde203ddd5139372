import GlowSyntax.Command.Execution

open GlowSyntax

def readSource (path : String) : IO (Except ReadError SourceFile) := do
  try
    return SourceFile.ofBytes path (← IO.FS.readBinFile path)
  catch e => return .error (match e with
    | .noFileOrDirectory .. => .notFound
    | .inappropriateType _ 21 _ => .isDirectory
    | .inappropriateType .. => .notDirectory
    | .permissionDenied .. => .denied
    | e => .other (toString e))

def main (args : List String) : IO UInt32 := do
  let request := Request.ofArguments args
  let source ← match request with
    | .run c _ _ => c.file?.mapM readSource
    | _ => pure none
  let outcome := request.outcome fun _ => source.getD (.error .notFound)
  IO.print outcome.output
  IO.eprint outcome.errors
  return outcome.status.toUInt32
