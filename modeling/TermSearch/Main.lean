import TermSearch.CommandLine

namespace TermSearch

/-- What stands at a path of the file system. Whatever cannot be read as a file counts as a folder. -/
def fileState (path : String) : IO FileState := do
  try
    return .file (← IO.FS.readBinFile path)
  catch
    | .noFileOrDirectory .. => return .missing
    | _ => return .directory

def respond (env : CommandLine.Environment) (arguments : List String) : IO CommandLine.Report := do
  match CommandLine.parse env arguments with
  | .error error => return CommandLine.usage error
  | .ok config =>
    let state ← if CommandLine.opensIndex config then fileState config.index else pure .missing
    return CommandLine.answer config state

end TermSearch

def main (arguments : List String) : IO UInt32 := do
  let env := { index := ← IO.getEnv "WIKIQUERY_INDEX", log := ← IO.getEnv "WIKIQUERY_LOG" }
  let report ← TermSearch.respond env arguments
  for line in report.log ++ report.failure do
    IO.eprintln line
  IO.print report.stdout
  return .ofNat report.code
