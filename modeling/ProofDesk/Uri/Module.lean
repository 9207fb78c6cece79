import ProofDesk.Files.Basic
import ProofDesk.Report.Lookup
import ProofDesk.Uri.Reader

namespace ProofDesk

namespace Uri

/-- The URI of an absolute file path. Steps to directories above stay in it. -/
def ofFilePath (path : Text) : Uri :=
  let segments := (Text.pathParts path).map fun
    | .name s => Percent.encode Percent.inSegment s
    | .parent => ['.', '.']
  let path := if segments.isEmpty then ['/'] else segments.flatMap ('/' :: ·)
  { scheme := fileScheme, authority := some {}, path }

end Uri

namespace ImportedModule

variable {U : Type}

def temporaryScheme : Text := "temporary".toList

/-- The path of a module's source below the scratch directory: the names of the module's path, or if
it has none, its short name. -/
def scratchPath (m : ImportedModule U) : Text :=
  match Text.pathNames m.path with
  | [] => m.shortName ++ ".slf".toList
  | names => Text.join ['/'] names

def sourcePath (m : ImportedModule U) (scratch : Text) : Text :=
  Text.joinPath scratch m.scratchPath

def temporaryUri? (path : Text) : Option Uri :=
  if Text.isAbsolutePath path then
    Uri.read? (temporaryScheme ++ ':' :: (Uri.ofFilePath path).path)
  else none

def siblingUri? (document : Uri) (path : Text) : Option Uri :=
  if path.isEmpty then none
  else if Text.isAbsolutePath path then some (.ofFilePath path)
  else document.join? path

/-- The URI of a module's source, and the files after the module's text, if it has one, has been
written. -/
def locate (m : ImportedModule U) (document : Uri) (scratch : Text) (files : Files) :
    Except FileFailure (Option Uri) × Files :=
  match m.text with
  | none => (.ok (siblingUri? document m.path), files)
  | some text =>
    let path := m.sourcePath scratch
    match files.save path text with
    | (none, files) => (.ok (temporaryUri? path), files)
    | (some failure, files) => (.error failure, files)

end ImportedModule

end ProofDesk
