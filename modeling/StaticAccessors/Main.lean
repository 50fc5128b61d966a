import StaticAccessors.Command.Run

/-!
# The tool on the local disk

A command works on a picture of the disk. It is taken before the command is run and holds what lies
below the current directory and what the arguments name; what the command changed in the picture is
written to the disk afterwards.

## Contents
- `Picture.ofArguments`: taking the picture.
- `Picture.writeChanges`: writing what changed.
- `main`.
-/

namespace StaticAccessors

namespace Picture

/-- Stands for the content of a file that no command looks into. No text has this content, so a file
that is written always shows as changed. -/
def unread : ByteArray := ⟨#[0xff]⟩

/-- The places that arguments may name, as they stand or after an equals sign. -/
def placesOf (here : Location) (args : List String) : List Location :=
  args.flatMap fun arg =>
    let after := (Command.cutSign arg.toList).2.toList
    (arg :: after).map fun s => (FilePath.ofText s).locate here

/-- Whether a command may look into a file: it may if the file was named or tells about units. -/
def isRead (named : List Location) (at_ : Location) : Bool :=
  named.contains at_ || (at_.getLast?.any fun name => FilePath.suffixOf name = ".asmdef")

/-- The path of a place on the disk. -/
def path (at_ : Location) := System.mkFilePath [at_.toPath.text]

/-- The entry at a place and those below it. What a link leads to is not looked through. -/
partial def readTree (named : List Location) (at_ : Location) : IO (List (Location × Entry)) := do
  if !(← (path at_).pathExists) then return []
  if ← (path at_).isDir then
    if (← (path at_).symlinkMetadata).type == .symlink then return [(at_, .directory)]
    let names := (← (path at_).readDir).toList.map (·.fileName)
    let below ← names.mapM fun name => readTree named (at_ ++ [name])
    return (at_, .directory) :: below.flatten
  else if isRead named at_ then return [(at_, .file (← IO.FS.readBinFile (path at_)))]
  else return [(at_, .file unread)]

/-- The directories above a place. -/
def readAbove (at_ : Location) : IO (List (Location × Entry)) := do
  let above ← (FilePath.prefixesOf at_).filterM fun place => (path place).isDir
  return above.map fun place => (place, .directory)

/-- The picture for a command line. -/
def ofArguments (here : Location) (args : List String) : IO Disk := do
  let named := placesOf here args
  let outside := named.filter fun at_ => !here.isPrefixOf at_
  let above ← (here :: outside).mapM readAbove
  let trees ← (here :: outside).mapM (readTree named)
  return ⟨above.flatten ++ trees.flatten⟩

/-- Writes the entries that changed. -/
def writeChanges (before after : Disk) : IO Unit :=
  (after.changesSince before).forM fun (at_, entry) =>
    match entry with
    | .directory => IO.FS.createDirAll (path at_)
    | .file content => IO.FS.writeBinFile (path at_) content

end Picture

/-- What asking for an address leads to: the tool has no way to any. -/
def noRoute : Response := .unreachable "no route to the address"

end StaticAccessors

open StaticAccessors in
/-- Runs the tool in the current directory. -/
def main (args : List String) : IO UInt32 := do
  let here := (FilePath.ofText (← IO.currentDir).toString).parts
  let before ← Picture.ofArguments here args
  let (outcome, t) := (Command.run here .builtin noRoute args).run (.ofSpace (.ofDisk before))
  Picture.writeChanges before t.space.disk
  t.out.forM IO.println
  (Logging.visible t.threshold t.space.records).forM fun r => IO.eprintln (r.level.name ++ " " ++ r.text)
  t.err.forM IO.eprintln
  match outcome with
  | .ok code => return code.toUInt32
  | .error fault =>
    IO.eprintln fault.message
    return 1
