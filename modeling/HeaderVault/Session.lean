import HeaderVault.Session.World

/-!
Sessions: computations that deal with the world step by step and may stop with an error.

Each step records its event. What a session has done to the world before it stops with an error
stays done.
-/

namespace HeaderVault

abbrev Session := ReaderT Environment (ExceptT Error (StateM World))

namespace Session

variable {α : Type}

/-- Runs a session to its end. -/
def runIn (session : Session α) (environment : Environment) (world : World) :
    Except Error α × World :=
  (session environment).run.run world

def record (event : Event) : Session Unit := modify fun world => world.record event

/-- The result of a session that may fail, as a value. -/
def attempt (session : Session α) : Session (Except Error α) :=
  tryCatch (Except.ok <$> session) fun error => pure (.error error)

/-- Takes a result over. -/
def ofExcept (result : Except Error α) : Session α :=
  match result with
  | .ok value => pure value
  | .error error => throw error

/-! ### The operator -/

def tell (notice : Notice) : Session Unit := record (.told notice)

def ask (prompt : Prompt) : Session prompt.Answer := do
  let environment ← read
  let world ← get
  match environment.operator world.history world.files prompt with
  | .ok answer =>
      record (.asked prompt none)
      return answer
  | .error refusal =>
      record (.asked prompt (some refusal.error))
      if refusal.announced then
        tell .cancelled
      throw refusal.error

/-- Stops because the operator declined. -/
def cancel : Session α := do
  tell .cancelled
  throw .cancelled

/-- A confirmation that is declined stops the session. -/
def requireConfirmation (message : String) (default warning : Bool) : Session Unit := do
  if !(← ask (.confirm message default warning)) then
    cancel

/-- Asks for a password and keyfiles. -/
def askCredential (text : String) : Session Credential := do
  let password ← ask (.password text)
  let keyfiles ← ask .keyfiles
  return ⟨password, keyfiles⟩

/-- Shows that something takes its time, also when it fails. -/
def busy (message : String) (result : Except Error α) : Session α := do
  tell (.beginBusy message)
  tell .endBusy
  ofExcept result

/-! ### Header slots -/

def hasBackupSlot : Session Bool := return (← get).hasBackupSlot

def readHeader (slot : HeaderSlot) : Session HeaderBytes := do
  let environment ← read
  let world ← get
  let result := (world.stored slot).bind (environment.device.read world.history slot)
  record (.read slot result)
  ofExcept result

def writeHeader (slot : HeaderSlot) (bytes : HeaderBytes) : Session Unit := do
  let environment ← read
  let world ← get
  let outcome := environment.device.write world.history slot (world.stored slot).toOption bytes
  match outcome.stored with
  | none =>
      record (.wrote slot bytes none outcome.result)
      ofExcept outcome.result
  | some stored =>
      match world.store slot stored with
      | .error error =>
          record (.wrote slot bytes none (.error error))
          throw error
      | .ok changed =>
          set changed
          record (.wrote slot bytes (some stored) outcome.result)
          ofExcept outcome.result

/-! ### Random bytes -/

/-- Draws random bytes; a request that fails takes none. -/
def draw (count : Nat) : Session (Octets count) := do
  let environment ← read
  let use := (← get).entropy
  let request := use.requests + 1
  match environment.entropy request use.taken count with
  | none =>
      modify fun world => { world with entropy := { use with requests := request } }
      record (.drew count false)
      throw .random
  | some octets =>
      modify fun world => { world with entropy := ⟨request, use.taken + count⟩ }
      record (.drew count true)
      return octets

def drawSalt : Session (Octets 64) := draw 64

/-! ### Mounting -/

def isMounted : Session Bool := do
  let mounted := (← get).mounted
  record (.queriedMount mounted)
  return mounted

def dismount : Session Unit := do
  let result := (← read).mount.dismount (← get).history
  record (.dismounted result)
  ofExcept result
  modify fun world => { world with mounted := false }

/-- Mounts the volume and tells where. -/
def mount (credential : Credential) : Session String := do
  let result := (← read).mount.mount (← get).history credential
  record (.mounted credential result)
  let target ← ofExcept result
  modify fun world => { world with mounted := true }
  return target

/-! ### Files -/

def fileExists (path : Path) : Session Bool := return (← get).files.exists? path

def loadFile (path : Path) : Session Bytes := do
  ofExcept (FileSystem.describe s!"cannot read {path.text}" ((← get).files.read path))

/-- Puts a change to the files into effect, and takes its result over. -/
def changeFiles (change : FileSystem → FileSystem × Except Error α) : Session α := do
  let (files, result) := change (← get).files
  modify fun world => { world with files := files }
  ofExcept result

/-- The disk, as it is now. -/
def disk : Session Disk := return (← read).disk (← get).history

/-- Saves a file as a whole, with the directories above it. -/
def saveFile (path : Path) (data : Bytes) : Session Unit := do
  let save : Session Unit := do
    changeFiles fun files => files.ensureParents path
    let random ← draw 8
    let temporary ← ofExcept (FileSystem.temporaryPath path random)
    let disk ← disk
    changeFiles fun files => files.replaceThrough temporary path data disk
  let result ← attempt save
  record (.saved path data result)
  ofExcept result

/-- Removes a file; a fault on the way is not reported. -/
def removeFile (path : Path) : Session Unit := do
  let disk ← disk
  modify fun world => { world with files := world.files.discard path disk }

def loadBackup (path : Path) : Session HeaderBackup := do
  ofExcept (HeaderBackup.decode (← loadFile path))

def saveBackup (path : Path) (saved : HeaderBackup) : Session Unit := saveFile path saved.encode

/-! ### Volumes in files -/

/-- Goes on with a volume. -/
def useVolume (volume : FileVolume) : Session FileVolume := do
  modify fun world => { world with volume := .file volume }
  return volume

def createVolume (path : Path) (dataSize : UInt64) : Session FileVolume := do
  let disk ← disk
  useVolume (← changeFiles fun files => FileVolume.create files path dataSize disk)

def openVolume (path : Path) : Session FileVolume := do
  useVolume (← ofExcept (FileVolume.openAt (← get).files path))

end Session

end HeaderVault
