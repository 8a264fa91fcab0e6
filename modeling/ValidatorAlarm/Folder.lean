import ValidatorAlarm.Text.Form

/-!
# Folders

A folder holds files, some of them in folders of its own.  A path leads from the folder to one of
them, step by step: into a folder, out of it again, or nowhere.  No path leads out of the folder it
starts from.
-/
namespace ValidatorAlarm

/-- What can be read, by its path. -/
abbrev Files := String → Option (List UInt8)

/-- Where something is: its name and the names of the folders around it, from the inside out. -/
abbrev Place := List (List Char)

structure Folder where
  /-- The files with their places; of several at one place the first one counts. -/
  files : List (Place × List UInt8)

namespace Folder

def isStill (step : List Char) : Bool := step = [] || step = ['.']

def steps (path : String) : List (List Char) := Text.Form.splitAt '/' path.toList

/-- A folder with the given files, whose paths do not lead out of any folder.  Of several with one
path the last one counts. -/
def ofFiles (files : List (String × List UInt8)) : Folder where
  files := files.reverse.map fun (path, content) =>
    (((steps path).filter (!isStill ·)).reverse, content)

def hasFolder (folder : Folder) (place : Place) : Bool :=
  place.isEmpty || folder.files.any fun (file, _) => place.isSuffixOf file.tail

/-- The place where a step leads.  Every step is taken from a folder, so none leads on from a file. -/
def step? (folder : Folder) (place : Place) (step : List Char) : Option Place :=
  if !folder.hasFolder place then none
  else if isStill step then some place
  else if step = ['.', '.'] then (if place.isEmpty then none else some place.tail)
  else some (step :: place)

def place? (folder : Folder) (path : String) : Option Place :=
  if path.toList.head? = some '/' then none else (steps path).foldlM folder.step? []

def read (folder : Folder) : Files := fun path => do
  folder.files.lookup (← folder.place? path)

end Folder

end ValidatorAlarm
