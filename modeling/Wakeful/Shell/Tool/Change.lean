import Wakeful.Shell.Tool.Files

/-!
Programs that make, copy, move and remove files one after
the other, and tell what they do if asked for.
-/

namespace Wakeful.Shell.Tool

/-- How far a program that changes files has come. -/
structure Progress where
  /-- The files. -/
  workplace : Workplace
  /-- What has been written, the last first, each text with the number of its descriptor. -/
  written : List (Nat × Letters)
  /-- Whether everything could be done. -/
  isGood : Bool

/-- Something that a program does to files. -/
abbrev Change := StateM Progress

namespace Change

/-- The files as they are now. -/
def workplace : Change Workplace := return (← get).workplace

/-- Writes a line. -/
def tell (words : Letters) : Change Unit :=
  -- What is told is no complaint.
  modify fun progress => { progress with written := (1, words ++ ['\n']) :: progress.written }

/-- Writes a complaint about something that does no harm. -/
def warn (task : Task) (words : Letters) : Change Unit :=
  -- The program does not fail for it.
  modify fun progress => { progress with written := (2, task.complaint words) :: progress.written }

/-- Writes a complaint about something that could not be done. -/
def complain (task : Task) (words : Letters) : Change Unit := do
  -- The program goes on and fails in the end.
  warn task words
  modify ({ · with isGood := false })

/-- Tries to change the files, and gives the reason if this is refused. -/
def attempt (change : Workplace → Except Errno Workplace) : Change (Option Errno) := do
  -- A refusal leaves everything as it was.
  match change (← workplace) with
  | .ok after =>
    modify ({ · with workplace := after })
    return none
  | .error reason => return some reason

/-- Tries to change the files, complains if this is refused, and tells whether it has been done. -/
def carryOut (task : Task) (describe : Errno → Letters)
    (change : Workplace → Except Errno Workplace) : Change Bool := do
  -- The complaint depends on the reason.
  match ← attempt change with
  | none => return true
  | some reason =>
    complain task (describe reason)
    return false

/-- What a program comes to that changes files. -/
def result (task : Task) (change : Change Unit) : Result :=
  -- It fails if anything could not be done.
  let (_, last) := change.run ⟨task.workplace, [], true⟩
  ⟨if last.isGood then 0 else 1, last.written.reverse, task.input, last.workplace⟩

end Change

/-- Whether a path is there, if only as a link that leads nowhere. -/
def isNamed (workplace : Workplace) (path : Letters) : Bool := (lookAtName workplace path).isOk

/-- Whether a path leads to a directory. -/
def isDirectory (workplace : Workplace) (path : Letters) : Bool :=
  -- Links are followed.
  (look workplace path).toOption.any fun found => found.2.isDirectory

/-- Why a path leads to no directory. -/
def directoryReason (workplace : Workplace) (path : Letters) : Errno :=
  -- It may lead to something else.
  match look workplace path with
  | .error reason => reason
  | .ok _ => .notADirectory

/-- The names in a directory. -/
def namesIn (workplace : Workplace) (spot : Spot) : List Letters :=
  -- They are in the order of their letters.
  (workplace.tree.entriesAt spot).map fun entry => lettersOf entry.1

/-! ### Making -/

/-- Makes a directory, which may not be there yet. -/
def makeDirectory (mode : Nat) (workplace : Workplace) (path : Letters) :
    Except Errno Workplace := do
  -- It gets the permissions but those that are withheld.
  match workplace.mkdir (octetsOf path) with
  | (.ok .created, after) =>
    let (spot, _) ← look after path
    let granted := after.grantedIn spot.above mode
    return { after with tree := after.tree.insert spot.place (.directory granted) }
  | (.ok .exists, _) => throw .alreadyExists
  | (.error (.refused reason), _) => throw reason
  | (.error _, _) => throw .invalid

/-- The paths above a path, the outermost first. -/
def pathsAbove (path : Letters) : List Letters :=
  -- A path ends before each separator that follows something and is followed by something.
  let short := withoutSlashes path
  let ends := (List.range short.length).filter fun place =>
    place ≠ 0 && short[place]? = some '/' && short[place - 1]? ≠ some '/'
  ends.map (short.take ·)

/-- Makes a directory, tells so if asked for, and tells whether it has been made. -/
def tellMade (task : Task) (choices : Choices) (mode : Nat) (path : Letters) : Change Bool := do
  -- A name that is taken is a failure.
  let made ← Change.carryOut task (about "cannot create directory"
    path) fun workplace => makeDirectory mode workplace path
  if made && choices.has 'v' then
    Change.tell (task.name ++ ": created directory ".toList ++ Quoting.quoted path)
  return made

/-- Makes the directories at paths that are not there, and tells whether all are there then. -/
def makeAbove (task : Task) (choices : Choices) : List Letters → Change Bool
  -- What is there has to be a directory.
  | [] => return true
  | path :: others => do
    if isDirectory (← Change.workplace) path then makeAbove task choices others
    else if (look (← Change.workplace) path).isOk then
      Change.complain task (about "cannot create directory" path .notADirectory)
      return false
    else if ← tellMade task choices 0o777 path then makeAbove task choices others
    else return false

/-- Makes directories. -/
def mkdir : Task → Result :=
  -- All above may be made too, and then it is no failure if they are there.
  withChoices ⟨"pv", "m", [("parents", 'p'), ("mode", 'm'), ("verbose", 'v')],
    true⟩ 1 fun task choices =>
    if choices.operands.isEmpty then task.misused 1 "missing operand".toList
    else
      let wanted := (choices.value? 'm').map fun letters =>
        (letters, readMode true task.workplace.mask 0o777 letters)
      match wanted with
      | some (letters, none) => task.failing 1 ("invalid mode ".toList ++ Quoting.quoted letters)
      | _ => Change.result task do
        choices.operands.forM fun path => do
          let isThere := isDirectory (← Change.workplace) path
          if !(← makeAbove task choices (if choices.has 'p' then pathsAbove path else [])) then
            return
          if choices.has 'p' && isThere then return
          if ← tellMade task choices 0o777 path then
            match wanted, look (← Change.workplace) path with
            | some (_, some mode), .ok (spot, _) =>
              modify fun progress => { progress with workplace := { progress.workplace with
                tree := progress.workplace.tree.insert spot.place (.directory mode) } }
            | _, _ => return

/-- Makes files that are not there. -/
def touch : Task → Result :=
  -- Those that are there stay as they are.
  withChoices ⟨"achmf", "drt",
    [("no-create", 'c'), ("date", 'd'), ("reference", 'r'), ("no-dereference", 'h')], true⟩ 1
    fun task choices =>
      if choices.operands.isEmpty then task.misused 1 "missing file operand".toList
      else match (choices.value? 'r').bind fun path => match look task.workplace path with
          | .error reason => some (about "failed to get attributes of" path reason)
          | .ok _ => none with
        | some words => task.failing 1 words
        | none => Change.result task do
          choices.operands.forM fun path => do
            let workplace ← Change.workplace
            let seen := if choices.has 'h' then lookAtName workplace path else look workplace path
            let complaint (reason : Errno) : Change Unit :=
              Change.complain task (about "setting times of" path reason)
            match seen with
            | .ok _ => return
            | .error reason =>
              if choices.has 'c' || choices.has 'h' then
                if reason ≠ .notFound || !choices.has 'c' then complaint reason
              else
                match ← Change.attempt fun workplace =>
                  (workplace.openWrite false (octetsOf path)).map (·.2) with
                | none => return
                | some .isADirectory => complaint reason
                | some other => Change.complain task (about "cannot touch" path other)

/-! ### Removing -/

/-- Removes an empty directory. -/
def removeDirectory (path : Letters) (workplace : Workplace) : Except Errno Workplace :=
  -- The path may be all that is known of it.
  settled (workplace.rmdir (octetsOf path))

/-- Removes empty directories one after the other as long as this succeeds. -/
def removeAbove (task : Task) (choices : Choices) : List Letters → Change Unit
  -- What has been made last is removed first.
  | [] => return
  | path :: others => do
    if choices.has 'v' then
      Change.tell (task.name ++ ": removing directory, ".toList ++ Quoting.quoted path)
    match ← Change.attempt (removeDirectory path) with
    | none => removeAbove task choices others
    | some .notEmpty =>
      if !choices.has 'i' then
        Change.complain task (about "failed to remove directory" path .notEmpty)
    | some reason => Change.complain task (about "failed to remove directory" path reason)

/-- Removes empty directories. -/
def rmdir : Task → Result :=
  -- Those above may be removed too.
  withChoices ⟨"pv", "", [("parents", 'p'), ("verbose", 'v'), ("ignore-fail-on-non-empty", 'i')],
    true⟩ 1 fun task choices =>
    if choices.operands.isEmpty then task.misused 1 "missing operand".toList
    else Change.result task do
      choices.operands.forM fun path => do
        if choices.has 'v' then
          Change.tell (task.name ++ ": removing directory, ".toList ++ Quoting.quoted path)
        match ← Change.attempt (removeDirectory path) with
        | none => if choices.has 'p' then removeAbove task choices (pathsAbove path).reverse
        | some reason =>
          if reason = .notEmpty && choices.has 'i' then return
          let isLink := match lookAtName (← Change.workplace) (withoutSlashes path) with
            | .ok (_, .link _) => true
            | _ => false
          if reason = .notADirectory && path.getLast? = some '/' && isLink then
            Change.complain task
              ("failed to remove ".toList ++ Quoting.quoted path ++
                ": Symbolic link not followed".toList)
          else Change.complain task (about "failed to remove" path reason)

/-- Removes something with all that lies in it, and tells whether nothing is left of it. -/
def removeAll (task : Task) (choices : Choices) : (fuel : Nat) → (path : Letters) → Change Bool
  -- A directory is removed after what lies in it.
  | 0, _ => return false
  | fuel + 1, path => do
    let before ← Change.workplace
    match lookAtName before path with
    | .ok (spot, .directory mode) =>
      let names := namesIn before spot
      if !names.isEmpty && !(Node.directory mode).readable then
        Change.complain task (about "cannot remove" path .permissionDenied)
        return false
      let emptied ← names.foldlM (fun (emptied : Bool) name =>
        return (← removeAll task choices fuel (below path name)) && emptied) true
      if !emptied then return false
      let removed ← Change.carryOut task (about "cannot remove" path) (removeDirectory path)
      if removed && choices.has 'v' then
        Change.tell ("removed directory ".toList ++ Quoting.quoted path)
      return removed
    | _ =>
      let removed ← Change.carryOut task (about "cannot remove" path) fun workplace =>
        settled (workplace.unlink (octetsOf path))
      if removed && choices.has 'v' then Change.tell ("removed ".toList ++ Quoting.quoted path)
      return removed

/-- How deep a tree may be. -/
def treeDepth : Nat := 200

/-- Removes files, and directories with everything in them if asked for. -/
def rm : Task → Result :=
  -- A name that is missing is no failure if nothing is to be asked.
  withChoices ⟨"frRidvI", "", [("force", 'f'), ("recursive", 'r'), ("dir", 'd'), ("verbose", 'v')],
    true⟩ 1
    fun task choices =>
      let isDeep := choices.has 'r' || choices.has 'R'
      if choices.operands.isEmpty then
        if choices.has 'f' then task.saying 0 [] else task.misused 1 "missing operand".toList
      else Change.result task do
        choices.operands.forM fun path => do
          let workplace ← Change.workplace
          let last := lastName path
          match lookAtName workplace path with
          | .error reason =>
            if !(choices.has 'f' && (reason = .notFound || reason = .notADirectory)) then
              Change.complain task (about "cannot remove" path reason)
          | .ok (spot, node) =>
            if node.isDirectory && !isDeep &&
                !(choices.has 'd' && (namesIn workplace spot).isEmpty) then
              Change.complain task
                (about "cannot remove" path (if choices.has 'd' then .notEmpty else .isADirectory))
            else if node.isDirectory && (last = ['.'] || last = ['.', '.']) then
              Change.complain task
                ("refusing to remove '.' or '..' directory: skipping ".toList ++
                  Quoting.quoted path)
            else if node.isDirectory && spot.place.isEmpty then
              Change.complain task "it is dangerous to operate recursively on '/'".toList
              Change.complain task "use --no-preserve-root to override this failsafe".toList
            else discard (removeAll task choices treeDepth path)

/-! ### Copying and moving -/

/-- The kind of a copy. -/
structure Copying where
  /-- Whether links are copied as links. -/
  keepsLinks : Bool
  /-- Whether directories are copied. -/
  isDeep : Bool
  /-- Whether files are moved. -/
  isMove : Bool
  /-- Whether permissions are kept as they are. -/
  keepsMode : Bool

/-- Whether a source may take the place of a target, although both may be the same. -/
def mayReplace (workplace : Workplace) (manner : Copying) (source target : Letters) : Bool :=
  -- Links make a difference.
  let spot (path : Letters) := (look workplace path).toOption.map (·.1)
  let name (path : Letters) := (lookAtName workplace path).toOption
  match name source, name target with
  | some (left, leftNode), some (right, rightNode) =>
    if manner.keepsLinks && leftNode.isLink && rightNode.isLink then left != right
    else if !manner.keepsLinks && spot source != spot target then true
    else if manner.isMove && rightNode.isLink then true
    else if !leftNode.isLink && !rightNode.isLink then left != right
    else manner.keepsLinks && ((spot source).isNone || spot source != spot target)
  | _, _ => true

/-- Copies what a file holds to a path where something may be already. -/
def copyContents (task : Task) (choices : Choices) (manner : Copying) (isNew : Bool)
    (target : Letters) (mode : Nat) (contents : Octets) : Change Unit := do
  -- A file that is there keeps its permissions, and one
  -- that cannot be written may be removed first.
  let place (workplace : Workplace) : Option Place :=
    (look workplace target).toOption.map (·.1.place)
  let create : Change Unit := do
    match (← Change.workplace).createNew (octetsOf target) with
    | .ok (place, after) =>
      let mode := if manner.keepsMode then mode else after.granted mode
      modify ({ · with
        workplace := { after with tree := after.tree.insert place (.file mode contents) } })
    | .error fault =>
      let reason := match fault with
        | .refused reason => reason
        | _ => .notFound
      let isLink := match lookAtName (← Change.workplace) target with
        | .ok (_, .link _) => true
        | _ => false
      if reason = .alreadyExists && isLink then
        Change.complain task
          ("not writing through dangling symlink ".toList ++ Quoting.quoted target)
      else
        let reason := if reason = .isADirectory && target.getLast? = some '/' then .notADirectory
          else reason
        Change.complain task (about "cannot create regular file" target reason)
  if isNew then create
  else match ← Change.attempt fun workplace => workplace.writeFile (octetsOf target) contents with
    | none =>
      if manner.keepsMode then
        (place (← Change.workplace)).forM fun place => modify fun progress =>
          { progress with workplace :=
          { progress.workplace with
            tree := progress.workplace.tree.insert place (.file mode contents) } }
    | some reason =>
      if !choices.has 'f' then
        Change.complain task (about "cannot create regular file" target reason)
      else if ← Change.carryOut task (about "cannot remove" target) fun workplace =>
          settled (workplace.unlink (octetsOf target)) then
        if choices.has 'v' then Change.tell ("removed ".toList ++ Quoting.quoted target)
        create

/-- Copies something to a path, where the paths that have been made before are known. -/
def copyTo (task : Task) (choices : Choices) (manner : Copying) (made : List Letters)
    (top : Letters × Letters) : (fuel : Nat) → (source target : Letters) → Change Unit
  -- Directories are copied with what lies in them.
  | 0, _, _ => return
  | fuel + 1, source, target => do
    let workplace ← Change.workplace
    match if manner.keepsLinks then lookAtName workplace source else look workplace source with
    | .error reason => Change.complain task (about "cannot stat" source reason)
    | .ok (spot, node) =>
      if node.isDirectory && !manner.isDeep then
        Change.complain task
          ("-r not specified; omitting directory ".toList ++ Quoting.quoted source)
        return
      let isFile := (node matches .file _ _)
      let there := if isFile then look workplace target else lookAtName workplace target
      let mut isNew := there.toOption.isNone
      match there with
      | .error .notFound => pure ()
      | .error reason =>
        Change.complain task (about "cannot stat" target reason)
        return
      | .ok (_, old) =>
        if !mayReplace workplace manner source target then
          Change.complain task
            (Quoting.quoted source ++ " and ".toList ++ Quoting.quoted target ++
              " are the same file".toList)
          return
        if choices.has 'n' then return
        if !old.isDirectory && node.isDirectory then
          Change.complain task
            ("cannot overwrite non-directory ".toList ++ Quoting.quoted target ++
              " with directory ".toList
            ++ Quoting.quoted source)
          return
        if !old.isDirectory && made.contains target then
          Change.complain task
            ("will not overwrite just-created ".toList ++ Quoting.quoted target ++ " with ".toList
            ++ Quoting.quoted source)
          return
        if old.isDirectory && !node.isDirectory then
          Change.complain task
            ("cannot overwrite directory ".toList ++ Quoting.quoted target ++
              " with non-directory".toList)
          return
        if !old.isDirectory && manner.keepsLinks && !isFile then
          if !(← Change.carryOut task (about "cannot remove" target) fun workplace =>
              settled (workplace.unlink (octetsOf target))) then
            return
          if choices.has 'v' then Change.tell ("removed ".toList ++ Quoting.quoted target)
          isNew := true
      if choices.has 'v' && !node.isDirectory then Change.tell (paired source "->" target)
      match node with
      | .directory mode =>
        if isNew then
          if !(← Change.carryOut task (about "cannot create directory" target) fun workplace =>
              makeDirectory 0o777 workplace target) then return
          if choices.has 'v' then Change.tell (paired source "->" target)
        if !node.readable then Change.complain task (about "cannot access" source .permissionDenied)
        else
          let goal := (lookAtName (← Change.workplace) target).toOption.map (·.1)
          for name in namesIn (← Change.workplace) spot do
            if (lookAtName (← Change.workplace) (below source name)).toOption.map (·.1) = goal then
              Change.complain task
                ("cannot copy a directory, ".toList ++ Quoting.quoted top.1 ++
                  ", into itself, ".toList
                ++ Quoting.quoted top.2)
            else copyTo task choices manner made top fuel (below source name) (below target name)
        if isNew then
          match look (← Change.workplace) target with
          | .ok (spot, _) =>
            modify fun progress => { progress with workplace := { progress.workplace with
              tree := progress.workplace.tree.insert spot.place
                (.directory (if manner.keepsMode then mode
                  else workplace.grantedIn spot.above mode)) } }
          | .error _ => return
      | .link path =>
        discard <| Change.carryOut task
          (about "cannot create symbolic link" target) fun workplace =>
          match workplace.createNew (octetsOf target) with
          | .ok (place, after) => .ok { after with tree := after.tree.insert place (.link path) }
          | .error (.refused reason) => .error reason
          | .error _ => .error .notFound
      | .file mode contents =>
        if !node.readable then
          Change.complain task
            ("cannot open ".toList ++ Quoting.quoted source ++
              " for reading: Permission denied".toList)
        else copyContents task choices manner isNew target mode contents
      | _ => copyContents task choices manner isNew target 0o666 []

/--
The sources among operands with the targets that they are copied or moved to, or what is wrong.
-/
def goals (task : Task) (choices : Choices) (followsLast : Bool) :
    Except Result (List (Letters × Letters)) :=
  -- A directory takes everything in under its own name.
  let into (directory : Letters) (sources : List Letters) := sources.map fun source =>
    (source, below directory (lastName source))
  match choices.value? 't', choices.operands.reverse with
  | _, [] => .error (task.misused 1 "missing file operand".toList)
  | some directory, sources =>
    if isDirectory task.workplace directory then .ok (into directory sources.reverse)
    else
      .error (task.failing 1
        (about "target directory" directory (directoryReason task.workplace directory)))
  | none, [only] =>
    .error (task.misused 1
      ("missing destination file operand after ".toList ++ Quoting.quoted only))
  | none, last :: others =>
    let sources := others.reverse
    if choices.has 'T' then
      match choices.operands with
      | [source, target] => .ok [(source, target)]
      | _ =>
        .error (task.misused 1
          ("extra operand ".toList ++ Quoting.quoted (choices.operands.getD 2 [])))
    else if followsLast && isDirectory task.workplace last then .ok (into last sources)
    else match sources with
      | [source] => .ok [(source, last)]
      | _ => .error (task.failing 1 (about "target" last (directoryReason task.workplace last)))

/-- Does something for each source and its target, where the targets before are known. -/
def forGoals (pairs : List (Letters × Letters))
    (act : (made : List Letters) → Letters → Letters → Change Unit) : Change Unit :=
  -- They are taken in turn.
  pairs.zipIdx.forM fun ((source, target), place) =>
    act ((pairs.take place).map (·.2)) source target

/-- Copies files. -/
def cp : Task → Result :=
  -- Directories are copied only if asked for, and a file that is named twice is copied once.
  withChoices ⟨"afipnrRTuvdPLHlsxZb", "tS",
    [("recursive", 'r'), ("force", 'f'), ("archive", 'a'), ("no-clobber", 'n'),
      ("verbose", 'v'), ("no-dereference", 'P'), ("dereference", 'L'), ("target-directory", 't'),
      ("no-target-directory", 'T'), ("preserve", 'p'), ("interactive", 'i')],
      true⟩ 1 fun task choices =>
    let isDeep := choices.has 'r' || choices.has 'R' || choices.has 'a'
    let links := ((choices.chosen.map (·.1)).filter ("PLHda".toList.contains ·)).getLast?
    let keepsLinks := match links with
      | some 'L' | some 'H' => false
      | some _ => true
      | none => isDeep
    let manner : Copying := ⟨keepsLinks, isDeep, false, choices.has 'p' || choices.has 'a'⟩
    match goals task choices true with
    | .error result => result
    | .ok pairs => Change.result task do
      pairs.zipIdx.forM fun ((source, target), place) => do
        let before := pairs.take place
        let isFile := (look task.workplace source).toOption.any fun found => !found.2.isDirectory
        if isFile && 1 < pairs.length && before.any (·.1 = source) then
          Change.warn task
            ("warning: source file ".toList ++ Quoting.quoted source ++
              " specified more than once".toList)
        else
          let target :=
            if lastName source = ['.', '.'] && lastName target = ['.', '.'] then
              target.dropLast.dropLast
            else target
          copyTo task choices manner (before.map (·.2)) (source, target) treeDepth source target

/-- Moves something to a path, where the paths that have been made before are known. -/
def moveTo (task : Task) (choices : Choices) (made : List Letters) (source target : Letters) :
    Change Unit := do
  -- What is there is replaced only by something of its kind.
  let workplace ← Change.workplace
  let rename (workplace : Workplace) : Except Errno Workplace :=
    settled (workplace.rename (octetsOf source) (octetsOf target))
  let told : Change Unit :=
    if choices.has 'v' then
      Change.tell ("renamed ".toList ++ paired source "->" target)
    else
      pure ()
  let refuse (reason : Errno) : Change Unit :=
    if reason = .invalid then Change.complain task ("cannot move ".toList ++ Quoting.quoted source
      ++ " to a subdirectory of itself, ".toList ++ Quoting.quoted target)
    else
      Change.complain task
        ("cannot move ".toList ++ Quoting.quoted source ++ " to ".toList ++ Quoting.quoted target
      ++ ": ".toList ++ reason.text.toList)
  let outcome := rename workplace
  let isTaken :=
    isNamed workplace source && isNamed workplace target && !(outcome matches .error .busy)
  match outcome, isTaken with
  | .ok after, false =>
    modify ({ · with workplace := after })
    told
  | _, _ =>
    match lookAtName workplace source, lookAtName workplace target with
    | .error reason, _ =>
      if !(isTaken && choices.has 'n') then Change.complain task (about "cannot stat" source reason)
    | .ok _, .error .notFound =>
      match outcome with
      | .error reason => refuse reason
      | .ok _ => return
    | .ok _, .error reason => Change.complain task (about "cannot stat" target reason)
    | .ok (_, node), .ok (_, old) =>
      if !mayReplace workplace ⟨true, true, true, true⟩ source target then
        Change.complain task
          (Quoting.quoted source ++ " and ".toList ++ Quoting.quoted target ++
            " are the same file".toList)
      else if choices.has 'n' then return
      else if !old.isDirectory && node.isDirectory then
        Change.complain task
          ("cannot overwrite non-directory ".toList ++ Quoting.quoted target ++
            " with directory ".toList
          ++ Quoting.quoted source)
      else if !old.isDirectory && made.contains target then
        Change.complain task
          ("will not overwrite just-created ".toList ++ Quoting.quoted target ++ " with ".toList
          ++ Quoting.quoted source)
      else if old.isDirectory && !node.isDirectory then
        Change.complain task
          ("cannot overwrite directory ".toList ++ Quoting.quoted target ++
            " with non-directory".toList)
      else match ← Change.attempt rename with
        | none => told
        | some reason => refuse reason

/-- Moves files and directories. -/
def mv : Task → Result :=
  -- What is there is replaced.
  withChoices ⟨"finTuvb", "tS",
    [("force", 'f'), ("no-clobber", 'n'), ("verbose", 'v'), ("target-directory", 't'),
      ("no-target-directory", 'T'), ("interactive", 'i')], true⟩ 1 fun task choices =>
    match goals task choices true with
    | .error result => result
    | .ok pairs => Change.result task (forGoals pairs (moveTo task choices))

/-! ### Links -/

/-- Gives a path to a link or to a file that has a path already. -/
def place (path : Letters) (node : Node) (workplace : Workplace) : Except Errno Workplace :=
  -- A separator at the end asks for a directory, which this cannot be.
  match workplace.createNew (octetsOf path) with
  | .ok (place, after) => .ok { after with tree := after.tree.insert place node }
  | .error (.refused .isADirectory) =>
    .error (if isNamed workplace path then .alreadyExists else .notFound)
  | .error (.refused reason) => .error reason
  | .error _ => .error .notFound

/-- Makes a link to a source at a target. -/
def linkTo (task : Task) (choices : Choices) (_made : List Letters) (source target : Letters) :
    Change Unit := do
  -- A link that is no path is made as a file with the same contents.
  let workplace ← Change.workplace
  let isSymbolic := choices.has 's'
  let told : Change Unit :=
    if choices.has 'v' then
      Change.tell (paired target (if isSymbolic then "->" else "=>") source)
    else
      pure ()
  let refuse (reason : Errno) : Change Unit :=
    let deed := "failed to create ".toList ++ (if isSymbolic then "symbolic" else "hard").toList ++
      " link ".toList
    let names := if isSymbolic then
        (if source.isEmpty || reason = .nameTooLong then paired target "->" source
          else Quoting.quoted target)
      else if reason = .alreadyExists then Quoting.quoted target else paired target "=>" source
    Change.complain task (deed ++ names ++ ": ".toList ++ reason.text.toList)
  let node : Except Errno Node := if isSymbolic then
      (if source.isEmpty then .error .notFound else .ok (.link (octetsOf source)))
    else (lookAtName workplace source).map (·.2)
  let make (workplace : Workplace) : Except Errno Workplace := do
    let node ← node
    if !isSymbolic && node.isDirectory then throw .notPermitted
    place target node workplace
  match ← Change.attempt make with
  | none => told
  | some reason =>
    match if isSymbolic then none else some (lookAtName workplace source) with
    | some (.error reason) => Change.complain task (about "failed to access" source reason)
    | some (.ok (_, .directory _)) =>
      Change.complain task (Quoting.name source ++ ": hard link not allowed for directory".toList)
    | _ =>
      if !choices.has 'f' then refuse reason
      else match lookAtName workplace target with
        | .error .notFound => refuse reason
        | .error reason => Change.complain task (about "failed to access" target reason)
        | .ok (_, .directory _) =>
          Change.complain task (Quoting.name target ++ ": cannot overwrite directory".toList)
        | .ok (spot, _) =>
          let origin := if isSymbolic then look workplace source else lookAtName workplace source
          if origin.toOption.map (·.1) = some spot then
            Change.complain task
              (Quoting.quoted source ++ " and ".toList ++ Quoting.quoted target ++
                " are the same file".toList)
          else
            match ← Change.attempt fun workplace => do
              make (← settled (workplace.unlink (octetsOf target))) with
            | none => told
            | some reason => refuse reason

/-- Makes links. -/
def ln : Task → Result :=
  -- One operand alone is linked to in the working directory.
  withChoices ⟨"fnsTvLPirb", "tS",
    [("symbolic", 's'), ("force", 'f'), ("no-dereference", 'n'), ("verbose", 'v'),
      ("target-directory", 't'), ("no-target-directory", 'T')], true⟩ 1 fun task choices =>
    let choices := match choices.operands, choices.value? 't', choices.has 'T' with
      | [_], none, false => { choices with chosen := choices.chosen ++ [('t', ['.'])] }
      | _, _, _ => choices
    let last := choices.operands.getLast?.getD []
    let isLink := match lookAtName task.workplace last with
      | .ok (_, .link _) => true
      | _ => false
    match goals task choices !(choices.has 'n' && isLink) with
    | .error result => result
    | .ok pairs => Change.result task (forGoals pairs (linkTo task choices))

/-! ### Permissions -/

/--
The arguments of a program that changes permissions: its
choices, what it describes them by, and the paths.
-/
def modeArguments : List Letters → Except Char (List Char × List Letters × List Letters)
  -- Permissions that are taken away look like a choice.
  | [] => .ok ([], [], [])
  | ['-', '-'] :: rest => .ok ([], [], rest)
  | ('-' :: letter :: more) :: rest => do
    if "rwxXstugoa,+=01234567".toList.contains letter then
      let (chosen, modes, others) ← modeArguments rest
      return (chosen, ('-' :: letter :: more) :: modes, others)
    match (letter :: more).find? fun letter => !"Rcfv".toList.contains letter with
    | some bad => throw bad
    | none =>
      let (chosen, modes, others) ← modeArguments rest
      return (letter :: more ++ chosen, modes, others)
  | word :: rest =>
    (modeArguments rest).map fun (chosen, modes, others) => (chosen, modes, word :: others)

/-- Permissions as a number and as letters. -/
def modeShown (node : Node) (mode : Nat) : Letters :=
  -- The number has four digits.
  let digits := Nat.toDigits 8 mode
  let bit (place : Nat) (letter : Char) : Char := if mode.testBit place then letter else '-'
  let last (place special : Nat) (low high : Char) : Char :=
    if mode.testBit special then (if mode.testBit place then low else high) else bit place 'x'
  let letters :=
    [bit 8 'r', bit 7 'w', last 6 11 's' 'S', bit 5 'r', bit 4 'w', last 3 10 's' 'S',
      bit 2 'r', bit 1 'w', last 0 9 't' 'T']
  let _ := node
  List.replicate (4 - digits.length) '0' ++ digits ++ " (".toList ++ letters ++ [')']

/-- Changes the permissions of something, and of all that lies in it if asked for. -/
def changeMode (task : Task) (chosen : List Char) (mode : Letters) (isTaking : Bool) :
    (fuel : Nat) → (isTop : Bool) →
    (path : Letters) → Change Unit
  -- Links below are left alone.
  | 0, _, _ => return
  | fuel + 1, isTop, path => do
    let workplace ← Change.workplace
    let complain (words : Letters) : Change Unit :=
      if chosen.contains 'f' then
        modify ({ · with isGood := false })
      else
        Change.complain task words
    match look workplace path with
    | .error reason =>
      let isLink := isNamed workplace path
      if isLink && !isTop then return
      if isLink && reason = .notFound then
        complain ("cannot operate on dangling symlink ".toList ++ Quoting.quoted path)
        if chosen.contains 'v' then
          Change.tell ("neither symbolic link ".toList ++ Quoting.quoted path ++
            " nor referent has been changed".toList)
      else
        complain (about "cannot access" path reason)
        if chosen.contains 'v' then
          Change.tell (Quoting.quoted path ++ " could not be accessed".toList)
    | .ok (spot, node) =>
      if !isTop && (match lookAtName workplace path with
        | .ok (_, .link _) => true
        | _ => false) then return
      let after := (readMode node.isDirectory workplace.mask node.mode mode).getD node.mode
      modify ({ · with
        workplace := { workplace with
          tree := workplace.tree.insert spot.place (node.withMode after) } })
      let shown := modeShown node
      if after = node.mode then
        if chosen.contains 'v' then
          Change.tell ("mode of ".toList ++ Quoting.quoted path ++ " retained as ".toList ++
            shown after)
      else if chosen.contains 'v' || chosen.contains 'c' then
        Change.tell ("mode of ".toList ++ Quoting.quoted path ++ " changed from ".toList ++
          shown node.mode ++ " to ".toList
          ++ shown after)
      let plain := (readMode node.isDirectory 0 node.mode mode).getD node.mode
      if isTaking && after &&& (0o7777 ^^^ plain) != 0 then
        let letters (mode : Nat) : Letters := ((shown mode).dropWhile (· ≠ '(')).drop 1 |>.dropLast
        complain (Quoting.name path ++ ": new permissions are ".toList ++ letters after ++
          ", not ".toList ++ letters plain)
      if chosen.contains 'R' && node.isDirectory then
        if !(node.withMode after).readable then
          complain (about "cannot read directory" path .permissionDenied)
        else (namesIn workplace spot).forM fun name =>
          changeMode task chosen mode isTaking fuel false (below path name)

/-- Changes permissions. -/
def chmod : Task → Result :=
  -- The first argument describes them, even if it looks like a choice.
  fun task =>
    match modeArguments task.arguments with
    | .error letter => task.misused 1 ("invalid option -- '".toList ++ [letter, '\''])
    | .ok (chosen, modes, operands) =>
      let mode := if modes.isEmpty then operands.headD [] else List.intercalate [','] modes
      let paths := if modes.isEmpty then operands.drop 1 else operands
      if operands.isEmpty then task.misused 1 "missing operand".toList
      else if paths.isEmpty then
        task.misused 1 ("missing operand after ".toList ++ Quoting.quoted mode)
      else if (readMode false task.workplace.mask 0 mode).isNone then
        task.misused 1 ("invalid mode: ".toList ++ Quoting.quoted mode)
      else
        Change.result task
          (paths.forM (changeMode task chosen mode (!modes.isEmpty) treeDepth true))

/-! ### Other programs -/

/-- Writes what it reads to files too. -/
def tee : Task → Result :=
  -- What is there may be kept.
  withChoices ⟨"aip", "", [("append", 'a')], true⟩ 1 fun task choices =>
    let result := Change.result task do
      choices.operands.forM fun path => do
        let before := ((← Change.workplace).contentsOf (octetsOf path)).toOption.getD []
        let former := if choices.has 'a' then before else []
        discard <| Change.carryOut task
          (fun reason => Quoting.name path ++ ": ".toList ++ reason.text.toList) fun workplace =>
            workplace.writeFile (octetsOf path) (former ++ octetsOf task.input)
    { result with written := result.written ++ [(1, task.input)], rest := [] }

/-- What may be missing of a path. -/
inductive Missing where
  /-- Nothing. -/
  | nothing
  /-- The last name. -/
  | lastName
  /-- Everything. -/
  | anything
  deriving DecidableEq

/-- The place that names lead to from another one, with every link followed. -/
def resolve (workplace : Workplace) (missing : Missing) :
    (fuel : Nat) → (place : Place) → (isKnown : Bool) → List Octets →
    Except Errno Place
  -- What is not there is taken as it is spelled.
  | 0, _, _, _ => .error .tooManyLinks
  | _ + 1, place, _, [] => .ok place
  | fuel + 1, place, isKnown, name :: rest =>
    let isLast := rest.all fun other => other.isEmpty || other = Path.self
    let check : Except Errno Unit :=
      if missing = .anything then .ok () else match workplace.tree.node? place with
      | some (.directory mode) =>
        if (Node.directory mode).searchable then .ok () else .error .permissionDenied
      | some _ => .error .notADirectory
      | none => .error .notFound
    if name.isEmpty || name = Path.self then
      match check with
      | .error .permissionDenied | .ok _ => resolve workplace missing fuel place isKnown rest
      | .error reason => if missing = .lastName && !isKnown then .ok place else .error reason
    else match check with
      | .error reason => .error reason
      | .ok _ =>
        if name = Path.parent then resolve workplace missing fuel place.tail true rest
        else match workplace.tree.node? (name :: place) with
          | some (.link target) =>
            let names := Tool.pieces '/' (lettersOf target) |>.map octetsOf
            let start := if Path.isAbsolute target then [] else place
            resolve workplace missing fuel start true (names ++ rest)
          | some _ => resolve workplace missing fuel (name :: place) true rest
          | none =>
            if missing = .anything || missing = .lastName && isLast then
              resolve workplace missing fuel (name :: place) false rest
            else .error .notFound

/-- The path without links and dots for a path. -/
def resolved (workplace : Workplace) (missing : Missing) (path : Letters) :
    Except Errno Letters := do
  -- No path at all leads nowhere.
  if path.isEmpty then throw .notFound
  let octets := octetsOf path
  let start := if Path.isAbsolute octets then [] else workplace.directory.place
  let names := (pieces '/' path).map octetsOf
  return lettersOf (Workplace.pathOf (← resolve workplace missing 2000 start true names))

/-- What may be missing by choices, of which the last counts. -/
def missingOf (choices : Choices) : Option Missing :=
  match ((choices.chosen.map (·.1)).filter ("fem".toList.contains ·)).getLast? with
  | some 'e' => some .nothing
  | some 'm' => some .anything
  | some _ => some .lastName
  | none => none

/-- Writes where links lead. -/
def readlink : Task → Result :=
  -- All links on the way may be followed.
  withChoices ⟨"fenmqsvz", "",
    [("canonicalize", 'f'), ("no-newline", 'n'), ("canonicalize-existing", 'e'),
      ("canonicalize-missing", 'm'), ("verbose", 'v'), ("zero", 'z'), ("quiet", 'q'),
      ("silent", 's')], true⟩ 1 fun task choices =>
    let isAlone := choices.operands.length ≤ 1
    let ending : Letters :=
      if choices.has 'n' && isAlone then [] else if choices.has 'z' then ['\x00'] else ['\n']
    if choices.operands.isEmpty then task.misused 1 "missing operand".toList
    else Change.result task do
      if choices.has 'n' && !isAlone then
        Change.warn task "ignoring --no-newline with multiple arguments".toList
      choices.operands.forM fun path => do
        let found : Except Errno Letters := match missingOf choices with
          | some missing => resolved task.workplace missing path
          | none => match lookAtName task.workplace path with
            | .ok (_, .link target) => .ok (lettersOf target)
            | .ok _ => .error .invalid
            | .error reason => .error reason
        match found with
        | .ok text =>
          modify fun progress =>
            { progress with written := (1, text ++ ending) :: progress.written }
        | .error reason =>
          if choices.has 'v' then
            Change.complain task (Quoting.name path ++ ": ".toList ++ reason.text.toList)
          else modify ({ · with isGood := false })

/-- Writes paths without links and dots. -/
def realpath : Task → Result :=
  -- Only the last name may be missing.
  withChoices ⟨"emsqLPz", "",
    [("canonicalize-existing", 'e'), ("canonicalize-missing", 'm'), ("strip", 's'),
      ("no-symlinks", 's'), ("quiet", 'q'), ("zero", 'z')], true⟩ 1 fun task choices =>
    let missing := (missingOf choices).getD .lastName
    let bare (path : Letters) : Letters :=
      let here := lettersOf (Workplace.pathOf task.workplace.directory.place)
      let names :=
        (pieces '/' (if path.head? = some '/' then path else below here path)).filter fun name =>
        !name.isEmpty && name ≠ ['.']
      let kept :=
        names.foldl (fun kept name => if name = ['.', '.'] then kept.drop 1 else name :: kept)
          ([] : List Letters)
      if kept.isEmpty then ['/'] else kept.reverse.flatMap ('/' :: ·)
    if choices.operands.isEmpty then task.misused 1 "missing operand".toList
    else Change.result task do
      choices.operands.forM fun path => do
        let found : Except Errno Letters :=
          match choices.has 's', resolved task.workplace missing path with
          | true, .ok _ => .ok (bare path)
          | true, .error reason =>
            if missing = .nothing || path.isEmpty || reason = .notADirectory then
              .error reason
            else
              .ok (bare path)
          | false, found => found
        match found with
        | .ok text => modify fun progress => { progress with
            written := (1, text ++ [if choices.has 'z' then '\x00' else '\n']) :: progress.written }
        | .error reason =>
          if choices.has 'q' then modify ({ · with isGood := false })
          else Change.complain task (Quoting.name path ++ ": ".toList ++ reason.text.toList)

end Wakeful.Shell.Tool
