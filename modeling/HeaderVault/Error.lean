/-!
Everything that can go wrong, by cause.

`Error` has one constructor for each class of failure and names the exact cause inside it; the
wording is produced in one place for each type (`Error.message` and the `message` functions of the
causes). `Error.cancelled` stands apart: it says that the operator declined, not that something
failed.
-/

namespace HeaderVault

/-- What a round key schedule is expanded for. -/
inductive Direction where
  | encrypt
  | decrypt
  deriving DecidableEq, Repr

def Direction.name : Direction → String
  | .encrypt => "Encrypt"
  | .decrypt => "Decrypt"

/-- Where a header lives inside a volume: at its start, or as the embedded copy at its end. -/
inductive HeaderSlot where
  | primary
  | backup
  deriving DecidableEq, Repr

def HeaderSlot.name : HeaderSlot → String
  | .primary => "Primary"
  | .backup => "Backup"

/-! ### Causes -/

/-- Why the operating system, or a reader above it, refused a file operation. -/
inductive FileFault where
  | notFound
  | inputOutput
  | denied
  | busy
  | exists
  | notDirectory
  | isDirectory
  | invalidArgument
  | tooLarge
  | noSpace
  | nameTooLong
  | noFileName
  | shortRead
  | missing
  | other
  | notText
  | sizeRange
  | nulInName
  deriving DecidableEq, Repr

def FileFault.message : FileFault → String
  | .notFound => "No such file or directory (os error 2)"
  | .inputOutput => "Input/output error (os error 5)"
  | .denied => "Permission denied (os error 13)"
  | .busy => "Device or resource busy (os error 16)"
  | .exists => "File exists (os error 17)"
  | .notDirectory => "Not a directory (os error 20)"
  | .isDirectory => "Is a directory (os error 21)"
  | .invalidArgument => "Invalid argument (os error 22)"
  | .tooLarge => "File too large (os error 27)"
  | .noSpace => "No space left on device (os error 28)"
  | .nameTooLong => "File name too long (os error 36)"
  | .noFileName => "invalid input parameter"
  | .shortRead => "failed to fill whole buffer"
  | .missing => "entity not found"
  | .other => "other error"
  | .notText => "stream did not contain valid UTF-8"
  | .sizeRange => "number too large to fit in target type"
  | .nulInName => "file name contained an unexpected NUL byte"

/-- Why the inputs of a key derivation are refused. -/
inductive ParamsFault where
  | laneCount (lanes : UInt32)
  | noPass
  | memoryPerLane (memory : UInt32)
  | outputLength (length : Nat)
  | saltLength
  | timeCost
  | parallelism (lanes : UInt32)
  | memoryCost
  | noPassword
  | noFile (title : String)
  deriving DecidableEq, Repr

def ParamsFault.message : ParamsFault → String
  | .laneCount lanes => s!"lane count {lanes} out of range"
  | .noPass => "at least one pass is required"
  | .memoryPerLane memory => s!"memory cost {memory} KiB is below 8 KiB per lane"
  | .outputLength length => s!"output length {length} out of range"
  | .saltLength => "salt must be at least 8 bytes"
  | .timeCost => "time cost must be >= 1"
  | .parallelism lanes => s!"parallelism {lanes} out of range"
  | .memoryCost => "memory cost must be at least 8 * parallelism"
  | .noPassword => "no password provided"
  | .noFile title => s!"{title}: no file given"

/-- Why a round key schedule cannot be used. -/
inductive ScheduleFault where
  | length (got : Nat)
  | zeroRounds
  | rounds (field : UInt8)
  | direction (held wanted : Direction)
  deriving DecidableEq, Repr

def ScheduleFault.message : ScheduleFault → String
  | .length got => s!"expected 244 bytes, got {got}"
  | .zeroRounds => "rounds field is zero"
  | .rounds field => s!"unsupported rounds field {field}"
  | .direction held wanted => s!"{held.name} schedule used for {wanted.name}"

/-- Why a byte string is no header, no volume, or no file of saved headers. -/
inductive HeaderFault where
  | length (got : Nat)
  | version (found : Nat)
  | paramsLength
  | algorithm (id : UInt8)
  | reserved
  | params (fault : ParamsFault)
  | magic
  | fileVersion (found : UInt8)
  | fileLength (got count : Nat)
  | timestamp
  | tooSmall (path : String)
  deriving DecidableEq, Repr

def HeaderFault.message : HeaderFault → String
  | .length got => s!"expected 512 bytes, got {got}"
  | .version found => s!"unsupported version {found}"
  | .paramsLength => "KDF parameter block too short"
  | .algorithm id => s!"unknown KDF algorithm {id}"
  | .reserved => "reserved KDF bytes are not zero"
  | .params fault => s!"invalid key derivation parameters: {fault.message}"
  | .magic => "not a header backup file"
  | .fileVersion found => s!"unsupported backup file version {found}"
  | .fileLength got count => s!"backup file length {got} does not match {count} headers"
  | .timestamp => "backup timestamp out of range"
  | .tooSmall path => s!"{path} is too small to be a volume"

/-- Why keyfiles cannot be mixed into a password. -/
inductive KeyfileFault where
  | passwordLength
  | empty (label : String)
  deriving DecidableEq, Repr

def KeyfileFault.message : KeyfileFault → String
  | .passwordLength => "password longer than 128 bytes cannot be combined with keyfiles"
  | .empty label => s!"keyfile {label} is empty"

/-- What a check after the fact found. -/
inductive VerificationFault where
  | readBack (slot : HeaderSlot)
  | reopened
  deriving DecidableEq, Repr

def VerificationFault.message : VerificationFault → String
  | .readBack slot => s!"{slot.name} header read back differs"
  | .reopened => "re-opened header differs"

/-- Why a key derivation stopped. -/
inductive DerivationFault where
  | position (pass lane slice passes lanes : UInt32)
  | blockInUse (index lane : UInt32)
  | external (text : String)
  deriving DecidableEq, Repr

def DerivationFault.message : DerivationFault → String
  | .position pass lane slice passes lanes =>
      s!"position Position \x7b pass: {pass}, lane: {lane}, slice: {slice} \x7d " ++
        s!"outside {passes} passes, {lanes} lanes"
  | .blockInUse index lane => s!"block {index} of lane {lane} is being written by another segment"
  | .external text => text

/-! ### Failures -/

/-- A failure of key derivation, the ciphers, the file operations or a header protocol. -/
inductive Error where
  | cancelled
  | invalidParams (fault : ParamsFault)
  | invalidKeyLength (length : Nat)
  | invalidLength (length : Nat)
  | corruptSchedule (fault : ScheduleFault)
  | malformedHeader (fault : HeaderFault)
  | keyfile (fault : KeyfileFault)
  | wrongCredential
  | verification (fault : VerificationFault)
  | allocation (kib : Nat)
  | derivation (fault : DerivationFault)
  | random
  | unsupported (what : String)
  | file (context : String) (fault : FileFault)
  deriving DecidableEq, Repr

namespace Error

/-- The text shown to the operator. -/
def message : Error → String
  | .cancelled => "operation cancelled"
  | .invalidParams fault => s!"invalid key derivation parameters: {fault.message}"
  | .invalidKeyLength length => s!"invalid key length: {length} bytes"
  | .invalidLength length => s!"buffer length {length} is not a multiple of the block size"
  | .corruptSchedule fault => s!"corrupt round key schedule: {fault.message}"
  | .malformedHeader fault => s!"malformed volume header: {fault.message}"
  | .keyfile fault => s!"keyfile error: {fault.message}"
  | .wrongCredential => "incorrect password or keyfiles, or not a volume"
  | .verification fault => s!"verification failed: {fault.message}"
  | .allocation kib => s!"cannot allocate {kib} KiB for the key derivation matrix"
  | .derivation fault => s!"key derivation failed: {fault.message}"
  | .random => "OS random generator unavailable"
  | .unsupported what => s!"not supported: {what}"
  | .file context fault => s!"{context}: {fault.message}"

/-- The texts of a failure and of what lies beneath it, outermost first. -/
def chain (error : Error) : List String :=
  match error with
  | .file _ fault => [error.message, fault.message]
  | _ => [error.message]

end Error

/-- A computation that goes on after another one succeeds only if both do. -/
theorem exists_of_bind {ε α β : Type} {first : Except ε α} {next : α → Except ε β} {result : β}
    (ok : first >>= next = .ok result) : ∃ value, first = .ok value ∧ next value = .ok result := by
  cases first with
  | error error => cases ok
  | ok value => exact ⟨value, rfl, ok⟩

end HeaderVault
