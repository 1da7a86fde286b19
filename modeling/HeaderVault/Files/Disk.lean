import HeaderVault.Files.System

/-!
Work on files that the system may refuse although nothing in the tree of files stands against it.

A file is given its length, data is written to it, it is moved or removed, and a file or a directory
is written out. Such a step is performed, or it is refused with a fault (`Disk.perform`); how far a
write has come that is refused is up to the disk.
-/

namespace HeaderVault

/-- Work on a file that is there; a directory is opened and written out like a file. -/
inductive DiskStep where
  | resize (file : Location) (length : Nat)
  | write (file : Location) (data : Bytes)
  | sync (place : Location)
  | rename (file : Location)
  | remove (file : Location)
  deriving DecidableEq, Repr

structure Disk where
  refuses : DiskStep → Option FileFault
  /-- The bytes that reach a file when writing them all is refused. -/
  reach : Location → (data : Bytes) → Nat

namespace Disk

/-- A disk that refuses nothing. -/
def reliable : Disk where
  refuses := fun _ => none
  reach := fun _ data => data.length

def perform (disk : Disk) (step : DiskStep) : Except FileFault Unit :=
  match disk.refuses step with
  | none => .ok ()
  | some fault => .error fault

theorem perform_eq_ok {disk : Disk} {step : DiskStep} :
    disk.perform step = .ok () ↔ disk.refuses step = none := by
  unfold perform
  split <;> simp_all

theorem perform_eq_error {disk : Disk} {step : DiskStep} {fault : FileFault} :
    disk.perform step = .error fault ↔ disk.refuses step = some fault := by
  unfold perform
  split <;> simp_all

end Disk

end HeaderVault
