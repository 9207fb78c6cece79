import ProofDesk.Checker.Launch
import ProofDesk.Editor.Json
import ProofDesk.Json.Printer
import ProofDesk.Report.Decode
import ProofDesk.Settings

namespace ProofDesk

/-- What the arguments ask for; `checker` is the command line of the checker, if one is given. -/
inductive Invocation where
  | version
  | help
  | checkHelp
  | helpHelp
  | misuse
  | serve (checker : Option Text)
  | check (checker : Option Text) (file : Text)
deriving DecidableEq, Repr

/-- The exit status and the text on standard output. -/
structure Exit where
  status : Nat
  output : Text := []
deriving DecidableEq, Repr

namespace Invocation

/-- An argument that can be no value: it starts with a hyphen and is longer than that. -/
def isFlag (a : Text) : Bool :=
  Text.startsWith a ['-'] && a.length > 1

/-- The arguments after `check`; `verbatim` tells that two hyphens have ended the flags. -/
def ofCheck (checker : Option Text) (file : Option Text) (verbatim : Bool) :
    List Text → Invocation
  | [] =>
    match file with
    | some f => check checker f
    | none => misuse
  | a :: rest =>
    if !verbatim && a == "--".toList then ofCheck checker file true rest
    else if !verbatim && (a == "--help".toList || Text.startsWith a "-h".toList) then checkHelp
    else if !verbatim && isFlag a then misuse
    else if file.isSome || a.isEmpty then misuse
    else ofCheck checker (some a) verbatim rest

def ofHelp : List Text → Invocation
  | [] => help
  | [a] => if a = "check".toList then checkHelp else if a = "help".toList then helpHelp else misuse
  | _ => misuse

def orMisuse (repeated : Bool) (i : Invocation) : Invocation :=
  if repeated then misuse else i

/-- What some arguments ask for, after those that gave the checker; the first argument that decides
or is wrong counts. `repeated` tells that the last option was given before, with its value as an
argument of its own. This shows only with the next option, or when the arguments have ended, so help
on a command comes before it. -/
def afterChecker (checker : Option Text) (repeated : Bool) : List Text → Invocation
  | [] => orMisuse repeated (serve checker)
  | a :: rest =>
    if a = "--checker".toList then
      match rest with
      | value :: rest =>
        if repeated ∨ isFlag value then misuse
        else afterChecker (some value) checker.isSome rest
      | [] => misuse
    else
      match Text.after? "--checker=".toList a with
      | some value => if checker.isSome then misuse else afterChecker (some value) false rest
      | none =>
        if a = "--version".toList ∨ Text.startsWith a "-V".toList then orMisuse repeated version
        else if a = "--help".toList ∨ Text.startsWith a "-h".toList then orMisuse repeated help
        else if a = "check".toList then
          match ofCheck checker none false rest with
          | check checker file => orMisuse repeated (check checker file)
          | other => other
        else if a = "help".toList then ofHelp rest
        else if a = "--".toList ∧ rest.isEmpty then orMisuse repeated (serve checker)
        else misuse

def ofArguments (arguments : List Text) : Invocation :=
  afterChecker none false arguments

end Invocation

namespace CommandLine

def versionText : Text :=
  "sasylf-lsp 0.1.0\n".toList

def helpText : Text :=
  ("Language server for the SASyLF proof assistant\n" ++
  "\n" ++
  "Usage: sasylf-lsp [OPTIONS] [COMMAND]\n" ++
  "\n" ++
  "Commands:\n" ++
  "  check  Check one file and print its diagnostics as JSON\n" ++
  "  help   Print this message or the help of the given subcommand(s)\n" ++
  "\n" ++
  "Options:\n" ++
  "      --checker <COMMAND>  Command line that launches the checker; " ++
  "`--lsp --stdin` is appended\n" ++
  "  -h, --help               Print help\n" ++
  "  -V, --version            Print version\n").toList

def checkHelpText : Text :=
  ("Check one file and print its diagnostics as JSON\n" ++
  "\n" ++
  "Usage: sasylf-lsp check <FILE>\n" ++
  "\n" ++
  "Arguments:\n" ++
  "  <FILE>  \n" ++
  "\n" ++
  "Options:\n" ++
  "  -h, --help  Print help\n").toList

def helpHelpText : Text :=
  ("Print this message or the help of the given subcommand(s)\n" ++
  "\n" ++
  "Usage: sasylf-lsp help [COMMAND]...\n" ++
  "\n" ++
  "Arguments:\n" ++
  "  [COMMAND]...  Print help for the subcommand(s)\n").toList

def settings? : Option Text → Option Settings
  | none => some {}
  | some line => (Launch.ofLine? line).map fun launch => { launch }

/-- Checks a file and prints its diagnostics. The status is one if there is an error among them, or
if the file cannot be read or the checker gives no report. -/
def checkFile (run : Launch → Text → Run) (s : Settings) (source : Option Text) : Exit :=
  match source with
  | none => ⟨1, []⟩
  | some text =>
    match run s.launch text with
    | .notStarted _ => ⟨1, []⟩
    | .finished output _ =>
      match Report.ofText output with
      | .error _ => ⟨1, []⟩
      | .ok report =>
        let found := (Diagnosis.ofFindings s.maxProblems report.findings).diagnostics
        ⟨if found.any Diagnostic.isError then 1 else 0,
          (Json.list Diagnostic.encode found).pretty 0 ++ ['\n']⟩

/-- Does what the arguments ask for. A server has nothing to do when its input is empty. -/
def perform (read : Text → Option Text) (run : Launch → Text → Run) (arguments : List Text) :
    Exit :=
  match Invocation.ofArguments arguments with
  | .version => ⟨0, versionText⟩
  | .help => ⟨0, helpText⟩
  | .checkHelp => ⟨0, checkHelpText⟩
  | .helpHelp => ⟨0, helpHelpText⟩
  | .misuse => ⟨2, []⟩
  | .serve checker =>
    match settings? checker with
    | some _ => ⟨0, []⟩
    | none => ⟨1, []⟩
  | .check checker file =>
    match settings? checker with
    | some s => checkFile run s (read file)
    | none => ⟨1, []⟩

end CommandLine

end ProofDesk
