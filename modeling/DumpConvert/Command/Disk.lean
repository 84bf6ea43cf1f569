import DumpConvert.Command.Run

/-!
# Paths and disks

A path is cut at its slashes into steps, and the steps are walked from the root or from
the directory that a process works in.  The walk ends at a place: at a name, at a
directory, or behind a name that would have to be a directory.  Which of these it is depends
on the path alone, and several paths lead to one place.

A disk says which place a path leads to, what reading each name gives, and whether writing
it is refused.  Writing a file changes its own name and no other: it is read back from every
path that leads to the name (`read_put`), and a refused write changes nothing.
-/

namespace DumpConvert.Command

inductive Place where
  /-- To a name that a file has or can be given. -/
  | file (name : Text)
  | directory
  /-- Behind such a name, by slashes alone or by further steps. -/
  | behind (name : Text) (onlySlashes : Bool)
deriving Repr, DecidableEq

namespace Place

/-! ## Walking -/

def isStill (step : Text) : Bool :=
  step.isEmpty || step == ['.']

/-- The directory above a directory; above the root is the root. -/
def above (here : Text) : Text :=
  match here with
  | '/' :: _ => ['/']
  | _ => here ++ ['.', '.', '/']

def rootDirectories : List Text :=
  ["/dev".toList, "/tmp".toList]

/-- Walk steps from a directory, whose path is empty or ends in a slash. -/
def walk (here : Text) : List Text → Place
  | [] => .directory
  | step :: rest =>
      if isStill step then walk here rest
      else if step == ['.', '.'] then walk (above here) rest
      else if rootDirectories.contains (here ++ step) then walk (here ++ step ++ ['/']) rest
      else if rest.isEmpty then .file (here ++ step)
      else .behind (here ++ step) (rest.all List.isEmpty)

/-! ## Resolving a path -/

/-- The system walks no path that is empty, holds a NUL or takes 4096 bytes or more. -/
def isWalkable (path : Text) : Bool :=
  !path.isEmpty && !path.contains (Char.ofNat 0) && Text.byteLength path < 4096

/-- The place that a path leads to; a path that is not walked is a name itself. -/
def ofPath (path : Text) : Place :=
  if isWalkable path then
    walk (if path.head? == some '/' then ['/'] else []) (Text.pieces (· == '/') path)
  else .file path

end Place

/-! ## Disks -/

inductive Content where
  | text (t : Text)
  | undecodable (bytes : List Nat)
deriving Repr, DecidableEq

/-- What reading a name gives, and why writing it is refused, if it is. -/
structure Entry where
  content : Except SystemFault Content
  refusal : Option SystemFault

namespace Entry

def ofText (t : Text) : Entry :=
  ⟨.ok (.text t), none⟩

def read (entry : Entry) : Except SystemFault Text :=
  match entry.content with
  | .ok (.text t) => .ok t
  | .ok (.undecodable _) => .error .notUtf8
  | .error fault => .error fault

/-- Why no path leads on behind the name: it is a file, or there is nothing. -/
def obstacle (entry : Entry) : SystemFault :=
  match entry.content with
  | .ok _ => .notDirectory
  | .error fault => fault

end Entry

/-- A disk: the place that a path leads to, and what each name stands for. -/
structure Disk where
  locate : Text → Place
  entry : Text → Entry

namespace Disk

def content? (disk : Disk) (path : Text) : Option Content :=
  match disk.locate path with
  | .file name => (disk.entry name).content.toOption
  | _ => none

def read (disk : Disk) (path : Text) : Except SystemFault Text :=
  match disk.locate path with
  | .file name => (disk.entry name).read
  | .directory => .error .isDirectory
  | .behind name _ => .error (disk.entry name).obstacle

def put (disk : Disk) (name t : Text) : Disk :=
  { disk with
    entry := fun other => if other = name then .ofText t else disk.entry other }

def write (disk : Disk) (path t : Text) : Except SystemFault Disk :=
  match disk.locate path with
  | .file name =>
      match (disk.entry name).refusal with
      | some fault => .error fault
      | none => .ok (disk.put name t)
  | .directory => .error .isDirectory
  | .behind name onlySlashes =>
      .error (if onlySlashes then .isDirectory else (disk.entry name).obstacle)

@[simp] theorem locate_put (disk : Disk) (name t path : Text) :
    (disk.put name t).locate path = disk.locate path := by
  rfl

@[simp] theorem entry_put_same (disk : Disk) (name t : Text) :
    (disk.put name t).entry name = .ofText t := by
  simp [put]

theorem entry_put_other (disk : Disk) {name other : Text} (t : Text) (h : other ≠ name) :
    (disk.put name t).entry other = disk.entry other := by
  simp [put, h]

/-- What is put at a name is read back from every path that leads to it. -/
theorem read_put {disk : Disk} {path name : Text} (t : Text) (h : disk.locate path = .file name) :
    (disk.put name t).read path = .ok t := by
  simp [read, h, Entry.ofText, Entry.read]

/-- A write that succeeds puts the text at the name that the path leads to. -/
theorem write_eq_ok_iff {disk changed : Disk} {path t : Text} :
    disk.write path t = .ok changed ↔
      ∃ name, disk.locate path = .file name ∧ (disk.entry name).refusal = none ∧
        changed = disk.put name t := by
  cases hplace : disk.locate path with
  | file name =>
      cases hrefusal : (disk.entry name).refusal with
      | none =>
          simp [write, hplace, hrefusal, eq_comm]
      | some fault =>
          simp [write, hplace, hrefusal]
  | directory =>
      simp [write, hplace]
  | behind name onlySlashes =>
      simp [write, hplace]

/-! ## A directory of files -/

/-- Why no file can have a name: the system takes steps of at most 255 bytes. -/
def nameFault? (name : Text) : Option SystemFault :=
  if name.isEmpty then some .noSuchFile
  else if name.contains (Char.ofNat 0) then some .nulInName
  else if 4096 ≤ Text.byteLength name then some .nameTooLong
  else if (Text.pieces (· == '/') name).any (fun step => 255 < Text.byteLength step) then
    some .nameTooLong
  else none

def entryAmong (files : Dictionary Content) (name : Text) : Entry :=
  match nameFault? name with
  | some fault => ⟨.error fault, some fault⟩
  | none =>
      match files.get? name with
      | some content => ⟨.ok content, none⟩
      | none => ⟨.error .noSuchFile, none⟩

/-- The disk of a process that works in a directory with these files. -/
def ofFiles (files : Dictionary Content) : Disk :=
  ⟨Place.ofPath, entryAmong files⟩

end Disk

end DumpConvert.Command
