import ProofDesk.Tool.Column
import ProofDesk.Tool.Compute
import ProofDesk.Tool.Count
import ProofDesk.Tool.Directory
import ProofDesk.Tool.Dump
import ProofDesk.Tool.Edit
import ProofDesk.Tool.Order
import ProofDesk.Tool.Search
import ProofDesk.Tool.Show
import ProofDesk.Tool.Translate

namespace ProofDesk.Tool

open Job

def microseconds? (s : Text) : Option Nat := do
  let digits := s.takeWhile fun c => c.isDigit || c == '.'
  let factor ← match s.drop digits.length with
    | [] | ['s'] => some 1
    | ['m'] => some 60
    | ['h'] => some 3600
    | ['d'] => some 86400
    | _ => none
  let (whole, places) := (Text.cut? '.' digits).getD (digits, [])
  let n ← Text.digits? (whole ++ places)
  return n * factor * 1000000 / Nat.pow 10 places.length

def sleep : Job Unit :=
  withOptions [] 1 fun o => do
    if o.operands.isEmpty then misuse 1 "missing operand".toList
    else
      let wrong := o.operands.filter fun a => (microseconds? a).isNone
      for a in wrong do
        warn ("invalid time interval ".toList ++ quote a)
      if !wrong.isEmpty then
        note ("Try '".toList ++ (← read).name ++ " --help' for more information.\n".toList)
        setStatus 1

def yes : Job Unit :=
  withOptions [] 1 fun o => do
    let line := if o.operands.isEmpty then ['y'] else Text.join [' '] o.operands
    print (List.replicate 20000 (line ++ ['\n'])).flatten

/-- Shows the environment, or the values of some of its variables. -/
def printenv : Job Unit :=
  withLeadingOptions [⟨'0', "null", false, false⟩] 2 fun o => do
    let call ← read
    let stop := if o.has '0' then '\x00' else '\n'
    match o.operands with
    | [] =>
      for (name, value) in call.environment do
        print (name ++ '=' :: value ++ [stop])
    | names =>
      for name in names do
        match call.environment.find? fun e => e.1 == name with
        | some (_, value) => print (value ++ [stop])
        | none => setStatus 1

/-- A command without options, which refuses those it is given. -/
def withoutOptions (job : Job Unit) : Job Unit :=
  withOptions [] 1 fun _ => job

def pwd : Job Unit :=
  withOptions [⟨'L', "logical", false, false⟩, ⟨'P', "physical", false, false⟩] 1 fun _ => do
    printLine (← read).directory

def realpath : Job Unit :=
  withOptions [⟨'e', "canonicalize-existing", false, false⟩,
    ⟨'m', "canonicalize-missing", false, false⟩, ⟨'q', "quiet", false, false⟩] 1 fun o => do
    if o.operands.isEmpty then misuse 1 "missing operand".toList
    for path in o.operands do
      match ← entryAt path with
      | .ok (place, _) => printLine (if place = [] then ['/'] else place.flatMap ('/' :: ·))
      | .error f => fail 1 (path ++ ": ".toList ++ wording f)

/-- Commands that are there, and of which nothing is known but that they refuse options. -/
def others : List Text :=
  ["arch", "b2sum", "base32", "basenc", "chcon", "chgrp", "chmod", "chown", "chroot", "cksum",
    "csplit", "date", "dd", "df", "dir", "dircolors", "du", "factor", "fmt", "groups", "hostid",
    "hostname", "install", "join", "link", "ln", "logname", "md5sum", "mkfifo", "mknod", "nproc",
    "numfmt", "pathchk", "pinky", "pr", "ptx", "readlink", "runcon", "sha1sum", "sha224sum",
    "sha256sum", "sha384sum", "sha512sum", "shred", "shuf", "split", "stat", "stty", "sum",
    "truncate", "tsort", "unexpand", "unlink", "uptime", "users", "vdir", "who"].map String.toList

def ofName? (name : Text) : Option (Job Unit) :=
  match String.ofList name with
  | "cat" => some cat
  | "tac" => some tac
  | "rev" => some rev
  | "head" => some head
  | "tail" => some tail
  | "tee" => some tee
  | "nl" => some nl
  | "fold" => some fold
  | "paste" => some paste
  | "expand" => some expand
  | "wc" => some wc
  | "tr" => some tr
  | "cut" => some cut
  | "sort" => some sort
  | "uniq" => some uniq
  | "comm" => some comm
  | "grep" => some grep
  | "sed" => some sed
  | "expr" => some expr
  | "seq" => some seq
  | "basename" => some basename
  | "dirname" => some dirname
  | "echo" => some echo
  | "printf" => some printf
  | "ls" => some ls
  | "rm" => some rm
  | "rmdir" => some rmdir
  | "mkdir" => some mkdir
  | "touch" => some touch
  | "mktemp" => some mktemp
  | "cp" => some (transfer true)
  | "mv" => some (transfer false)
  | "od" => some od
  | "base64" => some base64
  | "sleep" => some sleep
  | "yes" => some yes
  | "printenv" => some printenv
  | "pwd" => some pwd
  | "true" => some (setStatus 0)
  | "false" => some (setStatus 1)
  | "realpath" => some realpath
  | "sync" => some (withoutOptions (setStatus 0))
  | "tty" => some (withoutOptions do
      printLine "not a tty".toList
      setStatus 1)
  | "uname" => some (withOptions [⟨'s', "kernel-name", false, false⟩] 1 fun _ =>
      printLine "Linux".toList)
  | "id" => some (withOptions [⟨'u', "user", false, false⟩, ⟨'g', "group", false, false⟩,
      ⟨'G', "groups", false, false⟩, ⟨'n', "name", false, false⟩, ⟨'r', "real", false, false⟩] 1
      fun o => printLine (if o.has 'u' || o.has 'g' || o.has 'G' then
          (if o.has 'n' then "root" else "0").toList
        else "uid=0(root) gid=0(root) groups=0(root)".toList))
  | "whoami" => some (withoutOptions (printLine "root".toList))
  | _ => if others.contains name then some (withoutOptions (setStatus 0)) else none

end ProofDesk.Tool
