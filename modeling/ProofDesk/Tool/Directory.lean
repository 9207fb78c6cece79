import ProofDesk.Tool.Basic

namespace ProofDesk.Tool

open Job

namespace Job

def entryAt (path : Text) : Job (Except FileFailure (Place × Option FileEntry)) := do
  let full ← absolute path
  if path = [] then return .error .missing
  return (← get).files.resolve full

def modifyFiles (f : Files → Files) : Job Unit :=
  modify fun p => { p with files := f p.files }

/-- Complains that something cannot be done with a path. -/
def cannot (status : Nat) (what : String) (path : Text) (f : FileFailure) : Job Unit :=
  fail status ("cannot ".toList ++ what.toList ++ ' ' :: quote path ++ ": ".toList ++ wording f)

end Job

def belowPlace (f : Files) (place : Place) : List (Place × FileEntry) :=
  f.entries.filter fun e => place.isPrefixOf e.1

def namesIn (f : Files) (place : Place) : List Text :=
  (f.entries.filterMap fun e =>
    if e.1.dropLast == place && e.1 != [] then e.1.getLast? else none).mergeSort
    Text.inOrder

/-- Puts a copy of all that stands at a place and below it at another one. -/
def copied (f : Files) (source target : Place) : Files :=
  (belowPlace f source).foldl (fun g e => g.put (target ++ e.1.drop source.length) e.2) f

def removed (f : Files) (place : Place) : Files :=
  ⟨f.entries.filter fun e => !place.isPrefixOf e.1⟩

def rm : Job Unit :=
  withOptions [⟨'f', "force", false, false⟩, ⟨'r', "recursive", false, false⟩,
    ⟨'R', "", false, false⟩, ⟨'i', "", false, false⟩, ⟨'I', "", false, false⟩,
    ⟨'d', "dir", false, false⟩, ⟨'v', "verbose", false, false⟩] 1 fun o => do
    if o.operands.isEmpty && !o.has 'f' then misuse 1 "missing operand".toList
    for path in o.operands do
      match ← entryAt path with
      | .error .missing | .ok (_, none) =>
        if !o.has 'f' then cannot 1 "remove" path .missing
      | .error f => cannot 1 "remove" path f
      | .ok (place, some .directory) =>
        if !(o.has 'r' || o.has 'R') then cannot 1 "remove" path .isDirectory
        else modifyFiles fun f => removed f place
      | .ok (place, some _) => modifyFiles fun f => f.erase place

def rmdir : Job Unit :=
  withOptions [⟨'p', "parents", false, false⟩, ⟨'v', "verbose", false, false⟩] 1 fun o => do
    if o.operands.isEmpty then misuse 1 "missing operand".toList
    for path in o.operands do
      let complain (f : FileFailure) : Job Unit :=
        fail 1 ("failed to remove ".toList ++ quote path ++ ": ".toList ++ wording f)
      match ← entryAt path with
      | .error f => complain f
      | .ok (_, none) => complain .missing
      | .ok (place, some .directory) =>
        if (namesIn (← get).files place).isEmpty then modifyFiles fun f => f.erase place
        else complain .notEmpty
      | .ok _ => complain .notDirectory

def mkdir : Job Unit :=
  withOptions [⟨'p', "parents", false, false⟩, ⟨'m', "mode", true, false⟩,
    ⟨'v', "verbose", false, false⟩] 1 fun o => do
    if o.operands.isEmpty then misuse 1 "missing operand".toList
    for path in o.operands do
      let full ← absolute path
      if o.has 'p' then
        let (failure, files) := (← get).files.makeDirectories
          (Files.lineage (Text.pathParts full).length full)
        modifyFiles fun _ => files
        if let some f := failure then cannot 1 "create directory" path f
      else
        let files := (← get).files
        match if path = [] then .error .missing else files.makeDirectory full with
        | .ok files => modifyFiles fun _ => files
        | .error f => cannot 1 "create directory" path f

def touch : Job Unit :=
  withOptions [⟨'c', "no-create", false, false⟩, ⟨'a', "", false, false⟩, ⟨'m', "", false, false⟩,
    ⟨'d', "date", true, false⟩, ⟨'t', "", true, false⟩, ⟨'r', "reference", true, false⟩] 1
    fun o => do
    if o.operands.isEmpty then misuse 1 "missing file operand".toList
    for path in o.operands do
      match ← entryAt path with
      | .ok (_, some _) => pure ()
      | found =>
        if !o.has 'c' then
          match (← get).files.write (← absolute path) [] with
          | .ok files => modifyFiles fun _ => files
          | .error f =>
            let f := match found with
              | .error g => g
              | .ok _ => f
            cannot 1 "touch" path f

/-- Makes a file or a directory with a name that is new. -/
def mktemp : Job Unit :=
  withOptions [⟨'d', "directory", false, false⟩, ⟨'q', "quiet", false, false⟩,
    ⟨'u', "dry-run", false, false⟩, ⟨'p', "tmpdir", true, false⟩, ⟨'t', "", false, false⟩] 1
    fun o => do
    let template := o.operands.headD "tmp.XXXXXXXXXX".toList
    let base := if o.operands.isEmpty || o.has 't' || o.has 'p' then
        (o.value? 'p').getD "/tmp".toList ++ ['/'] else []
    let marks := (template.reverse.takeWhile (· == 'X')).length
    if marks < 3 then fail 1 ("too few X's in template ".toList ++ quote template)
    else
      let files := (← get).files
      let stem := base ++ template.take (template.length - marks)
      let directory ← absolute []
      let name (n : Nat) : Text :=
        let digits := Text.ofNat n
        stem ++ List.replicate (marks - digits.length) 'a' ++ digits
      let isFree (n : Nat) : Bool :=
        match files.resolve (Text.joinPath directory (name n)) with
        | .ok (_, some _) => false
        | _ => true
      let path := name (((List.range 1000).find? isFree).getD 0)
      let full ← absolute path
      match if o.has 'd' then files.makeDirectory full else files.write full [] with
      | .ok files =>
        if !o.has 'u' then modifyFiles fun _ => files
        printLine path
      | .error f =>
        fail 1 ("failed to create ".toList ++ (if o.has 'd' then "directory" else "file").toList ++
          " via template ".toList ++ quote (base ++ template) ++ ": ".toList ++ wording f)

/-- Puts files at other places; with `keeps` they stay at their own, too. -/
def transfer (keeps : Bool) : Job Unit :=
  withOptions [⟨'f', "force", false, false⟩, ⟨'r', "recursive", false, false⟩,
    ⟨'R', "", false, false⟩, ⟨'a', "archive", false, false⟩, ⟨'p', "", false, false⟩,
    ⟨'n', "no-clobber", false, false⟩, ⟨'i', "", false, false⟩, ⟨'v', "verbose", false, false⟩,
    ⟨'u', "update", false, false⟩, ⟨'T', "", false, false⟩] 1 fun o => do
    match o.operands.reverse with
    | [] => misuse 1 "missing file operand".toList
    | [a] => misuse 1 ("missing destination file operand after ".toList ++ quote a)
    | target :: sources =>
      let isDirectory := match ← entryAt target with
        | .ok (_, some .directory) => true
        | _ => false
      if 1 < sources.length && !isDirectory then
        fail 1 ("target ".toList ++ quote target ++ ": ".toList ++ wording .missing)
      else
        for source in sources.reverse do
          match ← entryAt source with
          | .error f => cannot 1 "stat" source f
          | .ok (_, none) => cannot 1 "stat" source .missing
          | .ok (place, some entry) =>
            let isDeep := o.has 'r' || o.has 'R' || o.has 'a' || !keeps
            if entry = .directory && !isDeep then
              fail 1 ("-r not specified; omitting directory ".toList ++ quote source)
            else
              let goal := if isDirectory then target ++ '/' :: (place.getLast?).getD [] else target
              match (← get).files.vacancy (← absolute goal) with
              | .error f =>
                let what := if keeps then "create regular file" else "move"
                if keeps then cannot 1 what goal f
                else fail 1 ("cannot move ".toList ++ quote source ++ " to ".toList ++ quote goal ++
                  ": ".toList ++ wording f)
              | .ok (found, _) =>
                modifyFiles fun f =>
                  let f := copied f place found
                  if keeps then f else removed f place

def ls : Job Unit :=
  withOptions [⟨'a', "all", false, false⟩, ⟨'A', "almost-all", false, false⟩,
    ⟨'1', "", false, false⟩, ⟨'d', "directory", false, false⟩, ⟨'r', "reverse", false, false⟩,
    ⟨'F', "classify", false, false⟩, ⟨'p', "", false, false⟩, ⟨'m', "", false, false⟩,
    ⟨'t', "", false, false⟩, ⟨'l', "", false, false⟩, ⟨'C', "", false, false⟩] 2 fun o => do
    let files := (← get).files
    let mark (place : Place) : Text :=
      if (o.has 'F' || o.has 'p') && files.entry? place == some .directory then ['/'] else []
    let inOrder (names : List Text) : List Text :=
      let sorted := names.mergeSort Text.inOrder
      if o.has 'r' then sorted.reverse else sorted
    let mut plain : List (Text × Place) := []
    let mut directories : List (Text × Place) := []
    for path in if o.operands.isEmpty then [['.']] else o.operands do
      match ← entryAt path with
      | .error f => cannot 2 "access" path f
      | .ok (_, none) => cannot 2 "access" path .missing
      | .ok (place, some .directory) =>
        if o.has 'd' then plain := plain ++ [(path, place)]
        else directories := directories ++ [(path, place)]
      | .ok (place, some _) => plain := plain ++ [(path, place)]
    let list (entries : List (Text × Place)) : Job Unit := do
      let shown := entries.map fun (name, place) => name ++ mark place
      if o.has 'm' then
        if !shown.isEmpty then printLine (Text.join ", ".toList shown)
      else
        for name in shown do printLine name
    let sortedBy (entries : List (Text × Place)) : List (Text × Place) :=
      (inOrder (entries.map Prod.fst)).filterMap fun n => entries.find? fun e => e.1 == n
    list (sortedBy plain)
    let hasHeadings := 1 < plain.length + directories.length || 1 < o.operands.length
    let mut isFirst := plain.isEmpty
    for (path, place) in sortedBy directories do
      if !isFirst then printLine []
      isFirst := false
      if hasHeadings then printLine (path ++ [':'])
      let names := (namesIn files place).filter fun n =>
        o.has 'a' || o.has 'A' || n.head? != some '.'
      let names := inOrder (names ++ if o.has 'a' then [['.'], ['.', '.']] else [])
      list (names.map fun n => (n, place ++ [n]))

end ProofDesk.Tool
