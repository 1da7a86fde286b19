import HeaderVault.Files.System

/-!
What has to be looked at before a run and what has changed after it.

`FileSystem.locationsOf` names every location that a path leads through, as far as the path alone
tells them, and `FileSystem.changes` lists what turns one state of the files into another.
Directories come before what is in them.
-/

namespace HeaderVault.FileSystem

/-- Where a step of a path leads if nothing stops it. -/
def stepTo (location : Location) (piece : String) : Location :=
  if piece = "." then location
  else if piece = ".." then location.tail
  else piece :: location

/-- The locations that steps lead through, the first one included. -/
def locationsFrom : Location → List String → List Location
  | location, [] => [location]
  | location, piece :: rest => location :: locationsFrom (stepTo location piece) rest

def locationsOf (working : Location) (path : Path) : List Location :=
  locationsFrom (if path.isAbsolute then [] else working) path.steps

/-- A location, and what is there afterwards. -/
structure Change where
  location : Location
  node : Option Node
  deriving DecidableEq, Repr

def removals (before after : FileSystem) : List Change :=
  (before.entries.filter fun entry => (after.get? entry.1).isNone).map fun entry => ⟨entry.1, none⟩

def additions (before after : FileSystem) : List Change :=
  let changed := after.entries.filter fun entry => before.get? entry.1 ≠ some entry.2
  (changed.mergeSort fun a b => a.1.length ≤ b.1.length).map fun entry => ⟨entry.1, some entry.2⟩

def changes (before after : FileSystem) : List Change :=
  removals before after ++ additions before after

end HeaderVault.FileSystem
