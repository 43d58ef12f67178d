import RunMeter.Machine.Utility.Paths
import RunMeter.Machine.Utility.Sources

/-!
# RunMeter.Machine.Utility.Filing — programs that make and remove files

Nothing that is proved depends on this module.
-/

namespace RunMeter.Machine.Filing

open Paths

/-! ## Directories -/

/-- Makes one directory, with permissions of its own if there are some. -/
def makeOne (c : Call) (shown : Bool) (mode : Option Nat) (path : Raw) : Act Bool := do
  let made ← doing c (fun pid k => k.makeDirectory pid path 0o777) fun e =>
    Raw.ofText "cannot create directory " ++ Raw.quoted path ++ Raw.ofText (": " ++ e.message)
  if made then
    if shown then c.emit (c.name ++ Raw.ofText ": created directory " ++ Raw.quoted path ++ ['\n']) 1
    match mode with
    | some m => let _ ← Act.tryChange fun pid k => k.setMode pid path m
    | none => pure ()
  return made

/-- The beginnings of a path, each with one part more. -/
def beginnings (path : Raw) : List Raw :=
  let rec go : (taken : Raw) → Raw → List Raw
    | taken, [] => if taken.isEmpty || taken.head? = some '/' then [] else [taken.reverse]
    | taken, c :: rest =>
      if c = '/' && !taken.isEmpty && taken.head? != some '/' then taken.reverse :: go (c :: taken) rest
      else go (c :: taken) rest
  go [] path

/-- Makes a directory and those above it that are missing. -/
def makeAll (c : Call) (shown : Bool) (mode : Option Nat) (path : Raw) : Act Bool := do
  let steps := beginnings path
  let rec go : List Raw → Act Bool
    | [] => return true
    | step :: rest => do
      if ← isDirectory step then go rest
      else if (← found? step true).isSome then
        c.complain (cannot "create directory" step .notDirectory)
        return false
      else if ← makeOne c shown none step then go rest
      else return false
  if !(← go steps.dropLast) then return false
  match steps.getLast? with
  | none => return true
  | some last =>
    if ← isDirectory last then return true
    else makeOne c shown mode last

/-- Makes directories. -/
def mkdir : Utility := fun c => do
  let g ← c.options ⟨"m:pvZ", [⟨"mode", "m", .required⟩, ⟨"parents", "p", .none⟩, ⟨"verbose", "v", .none⟩], false⟩ 1
  if g.operands.isEmpty then c.misused (Raw.ofText "missing operand") 1
  else
    let mode ← modeOf c g 0o777 true
    each g.operands fun path => if g.has "p" then makeAll c (g.has "v") mode path else makeOne c (g.has "v") mode path

/-- Removes empty directories. -/
def rmdir : Utility := fun c => do
  let g ← c.options ⟨"pv", [⟨"parents", "p", .none⟩, ⟨"verbose", "v", .none⟩,
    ⟨"ignore-fail-on-non-empty", "ignore", .none⟩], false⟩ 1
  if g.operands.isEmpty then c.misused (Raw.ofText "missing operand") 1
  else
    let remove (path : Raw) : Act Bool := do
      if g.has "v" then c.emit (c.name ++ Raw.ofText ": removing directory, " ++ Raw.quoted path ++ ['\n']) 1
      match ← Act.tryChange fun pid k => k.removeDirectory pid path with
      | none => return true
      | some e =>
        if g.has "ignore" && e = .notEmpty then return true
        else
          c.complain (Raw.ofText "failed to remove " ++ Raw.quoted path ++ Raw.ofText (": " ++ e.message))
          return false
    each g.operands fun path => do
      let steps := if g.has "p" then (beginnings path).reverse else [path]
      let rec go : List Raw → Act Bool
        | [] => return true
        | step :: rest => do if ← remove step then go rest else return false
      go steps

/-! ## Removing -/

/-- How files are removed. -/
structure Removal where
  deep : Bool
  forced : Bool
  empty : Bool
  shown : Bool
  asks : Bool

/-- What is asked before a file is removed. -/
def question (n : Node) (path : Raw) : Raw := Raw.ofText ("remove " ++ kindOf n ++ " ") ++ Raw.quoted path

/-- Removes a file, or a directory with what is in it. -/
def remove (c : Call) (r : Removal) : (fuel : Nat) → Raw → Act Bool
  | 0, _ => return false
  | fuel + 1, path => do
    match ← Act.node? path false with
    | .error e =>
      if r.forced && (e = .noEntry || e = .notDirectory) then return true
      else
        c.complain (cannot "remove" path e)
        return false
    | .ok (_, node) =>
      if node.isDirectory then
        if !r.deep && !r.empty then
          c.complain (cannot "remove" path .isDirectory)
          return false
        else
          let names ← if r.deep then namesIn path else pure (.ok [])
          let inner ← match names with
            | .error e => do
              c.complain (cannot "remove" path e)
              pure [false]
            | .ok names => do
              let goOn ← allowed c (r.asks && !names.isEmpty) (Raw.ofText "descend into directory " ++ Raw.quoted path)
              if goOn then names.mapM fun name => remove c r fuel (inside path name) else pure [false]
          if !inner.all id then return false
          else if !(← allowed c r.asks (question node path)) then return true
          else
            let done ← doing c (fun pid k => k.removeDirectory pid path) (cannot "remove" path)
            if done && r.shown then c.emit (Raw.ofText "removed directory " ++ Raw.quoted path ++ ['\n']) 1
            return done
      else if !(← allowed c r.asks (question node path)) then return true
      else
        let done ← doing c (fun pid k => k.removeName pid path) (cannot "remove" path)
        if done && r.shown then c.emit (Raw.ofText "removed " ++ Raw.quoted path ++ ['\n']) 1
        return done

/-- Removes files. -/
def rm : Utility := fun c => do
  let g ← c.options ⟨"dfiIrRv", [⟨"dir", "d", .none⟩, ⟨"force", "f", .none⟩, ⟨"recursive", "r", .none⟩,
    ⟨"verbose", "v", .none⟩, ⟨"no-preserve-root", "root", .none⟩, ⟨"preserve-root", "keep", .optional⟩,
    ⟨"one-file-system", "one", .none⟩, ⟨"interactive", "i", .optional⟩], false⟩ 1
  let forced := g.last? ["f", "i", "I"] == some "f"
  let deep := g.has "r" || g.has "R"
  let r : Removal := ⟨deep, forced, g.has "d", g.has "v", g.last? ["f", "i", "I"] == some "i"⟩
  if g.operands.isEmpty then
    if forced then return 0 else c.misused (Raw.ofText "missing operand") 1
  else each g.operands fun path => do
    let last := lastName path
    if deep && (last = ['.'] || last = ['.', '.']) then
      c.complain (Raw.ofText "refusing to remove '.' or '..' directory: skipping " ++ Raw.quoted path)
      return false
    else if deep && !g.has "root" && (← same path ['/']) then
      c.complain (Raw.ofText "it is dangerous to operate recursively on '/'" )
      c.complain (Raw.ofText "use --no-preserve-root to override this failsafe")
      return false
    else remove c r FileTree.maxPath path

/-- Takes a name from a file. -/
def unlink : Utility := fun c => do
  let g ← c.options ⟨"", [], false⟩ 1
  match g.operands with
  | [] => c.misused (Raw.ofText "missing operand") 1
  | [path] =>
    if ← doing c (fun pid k => k.removeName pid path) (cannot "unlink" path) then return 0 else return 1
  | _ :: extra :: _ => c.misused (Raw.ofText "extra operand " ++ Raw.quoted extra) 1

/-! ## Copying and moving -/

/-- How files are copied. -/
structure Copy where
  deep : Bool
  /-- Whether links are followed. -/
  follows : Bool
  keepsMode : Bool
  forced : Bool
  keepsOld : Bool
  asks : Bool
  shown : Bool
  /-- Links are made instead: symbolic ones, or other names. -/
  links : Option Bool
  /-- The directory that a directory is copied to, with the paths of both. -/
  into : Option (Nat × Raw × Raw)

/-- Copies the contents of a file. -/
def copyContents (c : Call) (r : Copy) (node : Node) (source target : Raw) (isOld : Bool) : Act Bool := do
  match ← Act.openFile source .reading with
  | .error e =>
    c.complain (Raw.ofText "cannot open " ++ Raw.quoted source ++ Raw.ofText (" for reading: " ++ e.message))
    return false
  | .ok input =>
    let create (mode : Nat) : Act (Except Errno Nat) :=
      Act.attempt fun pid k => k.openPath pid target (if isOld then .writing else .fresh) mode 3 false
    let first ← create (node.mode &&& 0o777)
    let opened ← match first with
      | .error e =>
        if r.forced && isOld then do
          let _ ← Act.tryChange fun pid k => k.removeName pid target
          Act.attempt fun pid k => k.openPath pid target .fresh (node.mode &&& 0o777) 3 false
        else pure (.error e)
      | .ok fd => pure (.ok fd)
    match opened with
    | .error e =>
      Act.close input
      c.complain (cannot "create regular file" target e)
      return false
    | .ok fd =>
      let read ← Act.readAll input
      Act.close input
      let done ← match read with
        | .error e => do
          c.complain (Raw.ofText "error reading " ++ Raw.quoted source ++ Raw.ofText (": " ++ e.message))
          pure false
        | .ok text => do
          match ← Act.write fd text with
          | none => pure true
          | some e =>
            c.complain (Raw.ofText "error writing " ++ Raw.quoted target ++ Raw.ofText (": " ++ e.message))
            pure false
      Act.close fd
      return done

/-- Keeps a file's permissions and time, if that is asked for. -/
def keepMode (r : Copy) (node : Node) (target : Raw) : Act Unit := do
  if r.keepsMode then
    let _ ← Act.tryChange fun pid k => k.setMode pid target node.mode
    let _ ← Act.tryChange fun pid k => k.setTime pid target node.changed

/-- Copies a file, or a directory with what is in it. -/
def copy (c : Call) (r : Copy) : (fuel : Nat) → (source target : Raw) → Act Bool
  | 0, _, _ => return false
  | fuel + 1, source, target => do
    match ← Act.node? source (r.follows || !r.deep) with
    | .error e =>
      c.complain (cannot "stat" source e)
      return false
    | .ok (number, node) =>
      if node.isDirectory && !r.deep then
        c.complain (Raw.ofText "-r not specified; omitting directory " ++ Raw.quoted source)
        return false
      else
        let there ← Act.node? target (!node.isLink)
        let old := (there.toOption).map Prod.snd
        let itself : Bool := match there with
          | .ok (n, _) => n = number
          | .error _ => false
        let display : Act Unit := do
          if r.shown then c.emit (Raw.quoted source ++ Raw.ofText " -> " ++ Raw.quoted target ++ ['\n']) 1
        if itself && r.links.isNone then
          c.complain (Raw.quoted source ++ Raw.ofText " and " ++ Raw.quoted target ++ Raw.ofText " are the same file")
          return false
        else if old.isSome && r.keepsOld then return true
        else match old.map Node.isDirectory, node.isDirectory with
          | some true, false =>
            c.complain (Raw.ofText "cannot overwrite directory " ++ Raw.quoted target ++ Raw.ofText " with non-directory")
            return false
          | some false, true =>
            c.complain (Raw.ofText "cannot overwrite non-directory " ++ Raw.quoted target ++ Raw.ofText " with directory " ++
              Raw.quoted source)
            return false
          | isThere, true => do
            match r.into.filter fun t => t.1 == number with
            | some (_, top, copied) =>
              c.complain (Raw.ofText "cannot copy a directory, " ++ Raw.quoted top ++ Raw.ofText ", into itself, " ++
                Raw.quoted copied)
              return false
            | none =>
              let made ← if isThere.isSome then pure true
                else do
                  let made ← doing c (fun pid k => k.makeDirectory pid target (node.mode &&& 0o777 ||| 0o700))
                    (cannot "create directory" target)
                  if made then display
                  pure made
              if !made then return false
              else match ← namesIn source with
                | .error e =>
                  c.complain (Raw.ofText "cannot access " ++ Raw.quoted source ++ Raw.ofText (": " ++ e.message))
                  return false
                | .ok names =>
                  let new ← Act.node? target true
                  let into := r.into.orElse fun _ => (new.toOption).map fun n => (n.1, source, target)
                  let results ←
                    names.mapM fun name => copy c { r with into } fuel (inside source name) (inside target name)
                  keepMode r node target
                  return results.all id
          | isThere, false => do
            if !(← allowed c (isThere.isSome && r.asks) (Raw.ofText "overwrite " ++ Raw.quoted target)) then return true
            else match r.links with
              | some symbolic => do
                if isThere.isSome && r.forced then
                  let _ ← Act.tryChange fun pid k => k.removeName pid target
                display
                if symbolic then
                  doing c (fun pid k => k.makeLink pid source target) fun e =>
                    Raw.ofText "cannot create symbolic link " ++ Raw.quoted target ++ Raw.ofText (": " ++ e.message)
                else doing c (fun pid k => k.addName pid source target) fun e =>
                  Raw.ofText "cannot create hard link " ++ Raw.quoted target ++ Raw.ofText " to " ++
                      Raw.quoted source ++
                    Raw.ofText (": " ++ e.message)
              | none =>
                display
                match node.body with
                | .link pointee =>
                  if isThere.isSome then
                    let _ ← Act.tryChange fun pid k => k.removeName pid target
                  doing c (fun pid k => k.makeLink pid pointee target) fun e =>
                    Raw.ofText "cannot create symbolic link " ++ Raw.quoted target ++ Raw.ofText (": " ++ e.message)
                | .fifo _ =>
                  if r.deep then
                    doing c (fun pid k => k.makeFifo pid target (node.mode &&& 0o777)) (cannot "create fifo" target)
                  else copyContents c r node source target isThere.isSome
                | _ => do
                  let dangling ← found? target false
                  if isThere.isNone && dangling.isSome then
                    c.complain (Raw.ofText "not writing through dangling symlink " ++ Raw.quoted target)
                    return false
                  else
                    let done ← copyContents c r node source target isThere.isSome
                    if done then keepMode r node target
                    return done

/-- Copies files. -/
def cp : Utility := fun c => do
  let g ← c.options ⟨"abdfHilLnPprRst:Tuvx", [⟨"archive", "a", .none⟩, ⟨"force", "f", .none⟩,
    ⟨"interactive", "i", .none⟩, ⟨"link", "l", .none⟩, ⟨"dereference", "L", .none⟩, ⟨"no-clobber", "n", .none⟩,
    ⟨"no-dereference", "P", .none⟩, ⟨"preserve", "p", .optional⟩, ⟨"recursive", "r", .none⟩,
    ⟨"symbolic-link", "s", .none⟩, ⟨"target-directory", "t", .required⟩, ⟨"no-target-directory", "T", .none⟩,
    ⟨"update", "u", .none⟩, ⟨"verbose", "v", .none⟩], false⟩ 1
  let (sources, target) ← targets c g
  let kept := g.last? ["n", "i", "f"]
  let r : Copy := ⟨g.has "r" || g.has "R" || g.has "a",
    g.has "L" || (!(g.has "P" || g.has "d" || g.has "a") && !(g.has "r" || g.has "R")), g.has "p" || g.has "a",
    g.has "f", kept == some "n", kept == some "i", g.has "v",
    if g.has "s" then some true else if g.has "l" then some false else none, none⟩
  let all ← pairs c g sources target
  let results ← all.mapM fun (source, target) => copy c r FileTree.maxPath source target
  return if results.all id then 0 else 1

/-- Moves a file. -/
def moveOne (c : Call) (g : Given) (source target : Raw) : Act Bool := do
  match ← Act.node? source false with
  | .error e =>
    c.complain (cannot "stat" source e)
    return false
  | .ok (number, node) =>
    let there ← Act.node? target false
    let old := (there.toOption).map Prod.snd
    let kept := g.last? ["n", "i", "f"]
    let itself : Bool := match there with
      | .ok (n, _) => n = number
      | .error _ => false
    if itself then
      c.complain (Raw.quoted source ++ Raw.ofText " and " ++ Raw.quoted target ++ Raw.ofText " are the same file")
      return false
    else if old.isSome && kept == some "n" then return true
    else if !(← allowed c (old.isSome && kept == some "i") (Raw.ofText "overwrite " ++ Raw.quoted target)) then return true
    else match old.map Node.isDirectory, node.isDirectory with
      | some true, false =>
        c.complain (Raw.ofText "cannot overwrite directory " ++ Raw.quoted target ++ Raw.ofText " with non-directory")
        return false
      | some false, true =>
        c.complain (Raw.ofText "cannot overwrite non-directory " ++ Raw.quoted target ++ Raw.ofText " with directory " ++
          Raw.quoted source)
        return false
      | _, _ =>
        match ← Act.tryChange fun pid k => k.move pid source target with
        | none =>
          if g.has "v" then c.emit (Raw.ofText "renamed " ++ Raw.quoted source ++ Raw.ofText " -> " ++ Raw.quoted target ++ ['\n']) 1
          return true
        | some e =>
          if e = .invalid && node.isDirectory then
            c.complain (Raw.ofText "cannot move " ++ Raw.quoted source ++ Raw.ofText " to a subdirectory of itself, " ++
              Raw.quoted target)
          else c.complain (Raw.ofText "cannot move " ++ Raw.quoted source ++ Raw.ofText " to " ++ Raw.quoted target ++
            Raw.ofText (": " ++ e.message))
          return false

/-- Moves files. -/
def mv : Utility := fun c => do
  let g ← c.options ⟨"bfint:Tuv", [⟨"force", "f", .none⟩, ⟨"interactive", "i", .none⟩, ⟨"no-clobber", "n", .none⟩,
    ⟨"target-directory", "t", .required⟩, ⟨"no-target-directory", "T", .none⟩, ⟨"update", "u", .none⟩,
    ⟨"verbose", "v", .none⟩], false⟩ 1
  let (sources, target) ← targets c g
  let all ← pairs c g sources target
  let results ← all.mapM fun (source, target) => moveOne c g source target
  return if results.all id then 0 else 1

/-! ## Links -/

/-- Makes one link. -/
def linkOne (c : Call) (g : Given) (source target : Raw) : Act Bool := do
  let symbolic := g.has "s"
  let kind := if symbolic then "symbolic link" else "hard link"
  let failed (e : Errno) : Raw :=
    Raw.ofText ("failed to create " ++ kind ++ " ") ++ Raw.quoted target ++
      (if symbolic && e = .noEntry && source.isEmpty then Raw.ofText " -> ''" else
        if !symbolic && e != .fileExists then Raw.ofText " => " ++ Raw.quoted source
        else []) ++ Raw.ofText (": " ++ e.message)
  let make : Act (Option Errno) :=
    if symbolic then Act.tryChange fun pid k => k.makeLink pid source target
    else Act.tryChange fun pid k => k.addName pid source target
  let node ← Act.node? source false
  match symbolic, node with
  | false, .error e =>
    c.complain (Raw.ofText "failed to access " ++ Raw.quoted source ++ Raw.ofText (": " ++ e.message))
    return false
  | false, .ok (_, node) =>
    if node.isDirectory then
      c.complain (Raw.displayed source ++ Raw.ofText ": hard link not allowed for directory")
      return false
  | true, _ => pure ()
  if g.has "f" then
    if source = target && (← found? target false).isSome then
      c.complain (Raw.quoted source ++ Raw.ofText " and " ++ Raw.quoted target ++ Raw.ofText " are the same file")
      return false
    let _ ← Act.tryChange fun pid k => k.removeName pid target
  match ← make with
  | none =>
    if g.has "v" then
      c.emit (Raw.quoted target ++ Raw.ofText (if symbolic then " -> " else " => ") ++ Raw.quoted source ++ ['\n']) 1
    return true
  | some e =>
    c.complain (failed e)
    return false

/-- Makes links. -/
def ln : Utility := fun c => do
  let g ← c.options ⟨"bdfFinLPrst:Tv", [⟨"force", "f", .none⟩, ⟨"interactive", "i", .none⟩,
    ⟨"no-dereference", "n", .none⟩, ⟨"relative", "r", .none⟩, ⟨"symbolic", "s", .none⟩,
    ⟨"target-directory", "t", .required⟩, ⟨"no-target-directory", "T", .none⟩, ⟨"verbose", "v", .none⟩], false⟩ 1
  match g.operands with
  | [] => c.misused (Raw.ofText "missing file operand") 1
  | [source] =>
    let target := match g.value? "t" with
      | some d => inside d (lastName source)
      | none => inside ['.'] (lastName source)
    let target := if g.has "t" then target else lastName source
    if ← linkOne c g source target then return 0 else return 1
  | ws =>
    let target := (g.value? "t").getD ((ws.getLast?).getD [])
    let sources := if g.has "t" then ws else ws.dropLast
    let isLink := ((← found? target false).map Node.isLink).getD false
    let all ← if g.has "n" && isLink && sources.length = 1 then pure (sources.map fun s => (s, target))
      else pairs c g sources target
    let results ← all.mapM fun (source, target) => linkOne c g source target
    return if results.all id then 0 else 1

/-- Gives a file another name. -/
def link : Utility := fun c => do
  let g ← c.options ⟨"", [], false⟩ 1
  match g.operands with
  | [] => c.misused (Raw.ofText "missing operand") 1
  | [a] => c.misused (Raw.ofText "missing operand after " ++ Raw.quoted a) 1
  | [a, b] =>
    let done ← doing c (fun pid k => k.addName pid a b) fun e =>
      Raw.ofText "cannot create link " ++ Raw.quoted b ++ Raw.ofText " to " ++ Raw.quoted a ++
          Raw.ofText (": " ++ e.message)
    return if done then 0 else 1
  | _ :: _ :: extra :: _ => c.misused (Raw.ofText "extra operand " ++ Raw.quoted extra) 1

/-! ## Permissions -/

/-- Permissions as nine characters. -/
def nine (n : Node) (mode : Nat) : Raw := (Permissions.letters { n with mode := mode }).tail

/-- Four octal digits. -/
def octal (mode : Nat) : Raw := Raw.padZeros 4 (Raw.digits 8 (mode &&& 0o7777))

/-- Changes the permissions of a file, or of all files in a directory too. -/
def changeMode (c : Call) (g : Given) (usual : Bool) (rule : Node → Option Nat) : (fuel : Nat) → Raw → Act Bool
  | 0, _ => return false
  | fuel + 1, path => do
    match ← Act.node? path true with
    | .error e =>
      if !g.has "f" then
        if e = .noEntry && ((← found? path false).map Node.isLink).getD false then
          c.complain (Raw.ofText "cannot operate on dangling symlink " ++ Raw.quoted path)
        else c.complain (cannot "access" path e)
      return false
    | .ok (_, node) =>
      let mode := (rule node).getD node.mode
      let mode := if node.isDirectory && usual then mode ||| (node.mode &&& 0o6000) else mode
      let failed ← Act.tryChange fun pid k => k.setMode pid path mode
      match failed with
      | some e => if !g.has "f" then
          c.complain (Raw.ofText "changing permissions of " ++ Raw.quoted path ++ Raw.ofText (": " ++ e.message))
      | none => pure ()
      if failed.isNone then
        if mode = node.mode then
          if g.has "v" then
            c.emit (Raw.ofText "mode of " ++ Raw.quoted path ++ Raw.ofText " retained as " ++ octal mode ++
              Raw.ofText " (" ++ nine node mode ++ Raw.ofText ")\n") 1
        else if g.has "v" || g.has "c" then
          c.emit (Raw.ofText "mode of " ++ Raw.quoted path ++ Raw.ofText " changed from " ++ octal node.mode ++
            Raw.ofText " (" ++ nine node node.mode ++ Raw.ofText ") to " ++ octal mode ++ Raw.ofText " (" ++
                nine node mode ++
            Raw.ofText ")\n") 1
      let inner ← if g.has "R" && node.isDirectory then do
          match ← namesIn path with
          | .ok names => names.mapM fun name => do
            let isLink := ((← found? (inside path name) false).map Node.isLink).getD false
            if isLink then return true else changeMode c g usual rule fuel (inside path name)
          | .error e =>
            c.complain (Raw.ofText "cannot read directory " ++ Raw.quoted path ++ Raw.ofText (": " ++ e.message))
            pure [false]
        else pure []
      return failed.isNone && inner.all id

/-- Whether a word is a mode that looks like a switch. -/
def isTakingMode (w : Raw) : Bool :=
  match w with
  | '-' :: rest@(ch :: _) => "rwxXstugo".toList.contains ch && rest.all "rwxXstugo,=+-0".toList.contains
  | _ => false

/-- Changes the permissions of files. -/
def chmod : Utility := fun c => do
  let words := match c.args.findIdx? isTakingMode with
    | some i => (c.args.take i) ++ ['-', '-'] :: c.args.drop i
    | none => c.args
  let g ← ({ c with words := c.name :: words }).options ⟨"Rcfv", [⟨"changes", "c", .none⟩, ⟨"silent", "f", .none⟩,
    ⟨"quiet", "f", .none⟩, ⟨"verbose", "v", .none⟩, ⟨"recursive", "R", .none⟩, ⟨"reference", "ref", .required⟩,
    ⟨"preserve-root", "keep", .none⟩, ⟨"no-preserve-root", "root", .none⟩], false⟩ 1
  match g.value? "ref", g.operands with
  | some path, files =>
    match ← Act.node? path true with
    | .error e =>
      c.fail (Raw.ofText "failed to get attributes of " ++ Raw.quoted path ++ Raw.ofText (": " ++ e.message)) 1
    | .ok (_, node) =>
      if files.isEmpty then c.misused (Raw.ofText "missing operand") 1
      else each files (changeMode c g false (fun _ => some node.mode) FileTree.maxPath)
  | none, [] => c.misused (Raw.ofText "missing operand") 1
  | none, [mode] => c.misused (Raw.ofText "missing operand after " ++ Raw.quoted mode) 1
  | none, mode :: files =>
    let mask := (← Act.task).mask
    if (Permissions.changed? mask 0 false mode).isNone then c.misused (Raw.ofText "invalid mode: " ++ Raw.quoted mode) 1
    else
      let numeric := (Permissions.octal? mode).isSome && mode.length < 5
      each files fun path => do
        let done ←
          changeMode c g numeric (fun n => Permissions.changed? mask n.mode n.isDirectory mode) FileTree.maxPath path
        if done && isTakingMode mode then
          match ← found? path true with
          | some n =>
            let meant := (Permissions.changed? 0 n.mode n.isDirectory mode).getD n.mode
            if meant != n.mode then
              c.complain (Raw.displayed path ++ Raw.ofText ": new permissions are " ++ nine n n.mode ++ Raw.ofText ", not " ++
                nine n meant)
              return false
          | none => pure ()
        return done

/-! ## Other files -/

/-- Makes pipes with names. -/
def mkfifo : Utility := fun c => do
  let g ← c.options ⟨"m:Z", [⟨"mode", "m", .required⟩], false⟩ 1
  if g.operands.isEmpty then c.misused (Raw.ofText "missing operand") 1
  else
    let mode ← modeOf c g 0o666 false
    each g.operands fun path => do
      let made ← doing c (fun pid k => k.makeFifo pid path 0o666) fun e =>
        Raw.ofText "cannot create fifo " ++ Raw.quoted path ++ Raw.ofText (": " ++ e.message)
      match mode with
      | some m => if made then
          let _ ← Act.tryChange fun pid k => k.setMode pid path m
      | none => pure ()
      return made

/-- The size that a word means for a file of a size. -/
def newSize (w : Raw) : Option (Nat → Nat) :=
  match w with
  | '+' :: n => (Sources.amount? n).map fun n size => size + n
  | '-' :: n => (Sources.amount? n).map fun n size => size - n
  | '<' :: n => (Sources.amount? n).map fun n size => min size n
  | '>' :: n => (Sources.amount? n).map fun n size => max size n
  | '/' :: n => (Sources.amount? n).map fun n size => size / n * n
  | '%' :: n => (Sources.amount? n).map fun n size => (size + n - 1) / n * n
  | n => (Sources.amount? n).map fun n _ => n

/-- Cuts files off or fills them up. -/
def truncate : Utility := fun c => do
  let g ← c.options ⟨"cor:s:", [⟨"no-create", "c", .none⟩, ⟨"io-blocks", "o", .none⟩, ⟨"reference", "r", .required⟩,
    ⟨"size", "s", .required⟩], false⟩ 1
  let reference ← match g.value? "r" with
    | none => pure none
    | some path => do
      match ← Act.node? path true with
      | .ok (_, n) => pure (some n.size)
      | .error e => c.fail (cannot "stat" path e) 1
  match (g.value? "s"), reference with
  | none, none => c.misused (Raw.ofText "you must specify either '--size' or '--reference'") 1
  | size, reference =>
    let rule : Option (Nat → Nat) := match size with
      | some w => newSize w
      | none => some fun _ => reference.getD 0
    match rule with
    | none => c.fail (Raw.ofText "Invalid number: " ++ Raw.quoted ((Raw.trimStart (size.getD [])))) 1
    | some rule =>
      if g.operands.isEmpty then c.misused (Raw.ofText "missing file operand") 1
      else each g.operands fun path => do
        let there ← Act.isThere path
        if !there && g.has "c" then return true
        else match ← Act.openFile path ⟨false, true, true, false, false, false⟩ with
          | .error e =>
            c.complain (Raw.ofText "cannot open " ++ Raw.quoted path ++ Raw.ofText (" for writing: " ++ e.message))
            return false
          | .ok fd =>
            Act.close fd
            let old := ((← found? path true).map Node.size).getD 0
            doing c (fun pid k => k.setSize pid path (rule (reference.getD old))) fun e =>
              Raw.ofText "failed to truncate " ++ Raw.quoted path ++ Raw.ofText (": " ++ e.message)

/-- Letters and digits of no special order, from a number. -/
def disorderly : (count : Nat) → (seed : Nat) → Raw
  | 0, _ => []
  | count + 1, seed =>
    let letters := "abcdefghijklmnopqrstuvwxyzABCDEFGHIJKLMNOPQRSTUVWXYZ0123456789".toList
    letters.getD (seed / 65536 % 62) 'a' :: disorderly count ((seed * 1103515245 + 12345) % 4294967296)

/-- Makes a file or a directory with a new name. -/
def mktemp : Utility := fun c => do
  let g ← c.options ⟨"dp:qtuV", [⟨"directory", "d", .none⟩, ⟨"dry-run", "u", .none⟩, ⟨"quiet", "q", .none⟩,
    ⟨"suffix", "suffix", .required⟩, ⟨"tmpdir", "tmpdir", .optional⟩], false⟩ 1
  match g.operands with
  | _ :: _ :: _ => c.misused (Raw.ofText "too many templates") 1
  | operands =>
    let template := operands.headD "tmp.XXXXXXXXXX".toList
    let directory := match g.value? "p", (c.binding? "TMPDIR") with
      | some d, _ => d
      | none, some d => if d.isEmpty then "/tmp".toList else d
      | none, none => "/tmp".toList
    let suffix := (g.value? "suffix").getD ((template.reverse.takeWhile (· != 'X')).reverse)
    let body := if g.has "suffix" then template else template.take (template.length - suffix.length)
    let marks := (body.reverse.takeWhile (· == 'X')).length
    if marks < 3 then c.fail (Raw.ofText "too few X's in template " ++ Raw.quoted template) 1
    else
      let own ← Act.ownPid
      let time ← Act.now
      let name := body.take (body.length - marks) ++ disorderly marks (own * 2654435761 + time * 40503 + 977) ++ suffix
      let path := if operands.isEmpty || g.has "p" || g.has "t" || g.has "tmpdir" then inside directory name else name
      let shownTemplate := if path == name then template else inside directory template
      let failed (e : Errno) : Raw :=
        Raw.ofText ("failed to create " ++ (if g.has "d" then "directory" else "file") ++ " via template ") ++
          Raw.quoted shownTemplate ++ Raw.ofText (": " ++ e.message)
      if g.has "u" then c.put (path ++ ['\n'])
      else if g.has "d" then
        match ← Act.tryChange fun pid k => k.makeDirectory pid path 0o700 with
        | none => c.put (path ++ ['\n'])
        | some e => c.fail (failed e) 1
      else
        match ← Act.attempt fun pid k => k.openPath pid path .fresh 0o600 3 false with
        | .ok _ => c.put (path ++ ['\n'])
        | .error e => c.fail (failed e) 1

/-- The programs by name. -/
def programs : List (String × Utility) :=
  [("mkdir", mkdir), ("rmdir", rmdir), ("rm", rm), ("unlink", unlink), ("cp", cp), ("mv", mv), ("ln", ln),
   ("link", link), ("chmod", chmod), ("mkfifo", mkfifo), ("truncate", truncate), ("mktemp", mktemp)]

end RunMeter.Machine.Filing
