import HeaderVault.Credential
import HeaderVault.Files.Path
import HeaderVault.Header.Cleartext

/-!
What happens between a protocol and the world: questions to the operator, notices, accesses to the
header slots, random bytes, mounting and saved files.

A run leaves its events behind, the newest first. Whatever the world does next may depend on all of
them, so a script is a function of the events so far.
-/

namespace HeaderVault

/-- Whether a file that is asked for has to exist. -/
inductive FileMode where
  | existing
  | new
  deriving DecidableEq, Repr

def FileMode.name : FileMode → String
  | .existing => "Existing"
  | .new => "New"

/-- A question to the operator. -/
inductive Prompt where
  | password (text : String)
  | keyfiles
  | selectFile (title : String) (mode : FileMode)
  /-- A warning marks a step that cannot be undone. -/
  | confirm (message : String) (default warning : Bool)
  /-- One of several options, or none. -/
  | choose (message : String) (options : List String)
  /-- A chance to add randomness before keys are made. -/
  | enrichEntropy
  deriving DecidableEq, Repr

/-- What answers a question. -/
abbrev Prompt.Answer : Prompt → Type
  | .password _ => Bytes
  | .keyfiles => List Keyfile
  | .selectFile _ _ => Path
  | .confirm _ _ _ => Bool
  | .choose _ _ => Option Nat
  | .enrichEntropy => Unit

/-- A statement to the operator. -/
inductive Notice where
  | info (message : String)
  | warning (message : String)
  | error (message : String)
  | beginBusy (message : String)
  | endBusy
  | cancelled
  deriving DecidableEq, Repr

inductive Event where
  /-- A question, and the error that came instead of an answer. -/
  | asked (prompt : Prompt) (refusal : Option Error)
  | told (notice : Notice)
  | read (slot : HeaderSlot) (result : Except Error HeaderBytes)
  /-- A header that was to be written, what was stored, and the report. -/
  | wrote (slot : HeaderSlot) (bytes : HeaderBytes) (stored : Option HeaderBytes)
      (result : Except Error Unit)
  | drew (count : Nat) (granted : Bool)
  | queriedMount (mounted : Bool)
  | dismounted (result : Except Error Unit)
  | mounted (credential : Credential) (result : Except Error String)
  | saved (path : Path) (data : Bytes) (result : Except Error Unit)

/-- The events so far, the newest first. -/
abbrev History := List Event

end HeaderVault
