import HeaderVault.Proofs.Header.RoundTrip
import HeaderVault.Proofs.Session.Course
import HeaderVault.Protocol.Sealing

/-!
Opening and sealing in a session.

What `unlock` gives is what `openHeader` gives, and what `sealFor` gives is the header under its own
key. All sessions of this kind are quiet. They leave spells of work and nothing else, so they neither
ask nor touch a slot in between.
-/

namespace HeaderVault

/-- What the headers of a volume keep, and the credential that opens them. -/
structure Contents where
  credential : Credential
  dataSize : UInt64
  keyArea : Octets 256

/-- The bytes are a header that opens to these contents. -/
def Contents.In (contents : Contents) (primitives : Primitives) (bytes : HeaderBytes) : Prop :=
  ∃ header, Protocol.openHeader primitives contents.credential bytes = .ok header ∧
    header.dataSize = contents.dataSize ∧ header.keyArea = contents.keyArea

/-- A slot holds a header that opens to these contents. -/
def World.SlotHas (world : World) (primitives : Primitives) (contents : Contents)
    (slot : HeaderSlot) : Prop :=
  ∃ bytes, world.stored slot = .ok bytes ∧ contents.In primitives bytes

theorem World.SlotHas.of_eq {world after : World} {primitives : Primitives} {contents : Contents}
    {slot : HeaderSlot} (has : world.SlotHas primitives contents slot)
    (same : after.stored slot = world.stored slot) : after.SlotHas primitives contents slot := by
  unfold SlotHas
  rwa [same]

/-- A slot that holds a header is there. -/
theorem World.hasBackupSlot_of_stored {world : World} {bytes : HeaderBytes}
    (held : world.stored .backup = .ok bytes) : world.hasBackupSlot = true := by
  unfold World.stored at held
  unfold hasBackupSlot
  split at held <;> simp_all

/-- There is no embedded copy that the credential opens. -/
def World.NoOpenBackup (world : World) (primitives : Primitives) (credential : Credential) : Prop :=
  world.hasBackupSlot = false ∨ ∃ bytes error, world.stored .backup = .ok bytes ∧
    Protocol.openHeader primitives credential bytes = .error error

theorem World.NoOpenBackup.fails {world : World} {primitives : Primitives} {credential : Credential}
    (closed : world.NoOpenBackup primitives credential) {bytes : HeaderBytes}
    (held : world.stored .backup = .ok bytes) :
    ∃ error, Protocol.openHeader primitives credential bytes = .error error := by
  rcases closed with missing | ⟨found, error, heldFound, fails⟩
  · rw [hasBackupSlot_of_stored held] at missing
    cases missing
  · obtain rfl := Except.ok.inj (held.symm.trans heldFound)
    exact ⟨error, fails⟩

namespace Protocol

open Session

section

variable {environment : Environment} {world : World} {credential : Credential}
variable {kinds : List Event.Kind}

theorem quiet_deriveBusy (credential : Credential) (salt : Octets 64) (kdf : KdfParams) :
    Within World.Quiet (deriveBusy credential salt kdf) :=
  within_read.bind fun _ => quiet_busy _ _

theorem quiet_unlock (credential : Credential) (bytes : HeaderBytes) :
    Within World.Quiet (unlock credential bytes) :=
  (within_ofExcept _).bind fun _ => (quiet_deriveBusy _ _ _).bind fun _ => within_ofExcept _

theorem quiet_sealFor (credential : Credential) (header : VolumeHeader) :
    Within World.Quiet (sealFor credential header) :=
  (quiet_deriveBusy _ _ _).bind fun _ => within_pure _

theorem quiet_unlockOrWarn (credential : Credential) (bytes : HeaderBytes) (warning : String) :
    Within World.Quiet (unlockOrWarn credential bytes warning) := by
  refine (quiet_unlock _ _).attempt.bind ?_
  intro result
  split
  · exact within_pure _
  · exact within_throw _
  · exact (quiet_tell _).bind fun _ => within_pure _

theorem leaves_deriveBusy (credential : Credential) (salt : Octets 64) (kdf : KdfParams) :
    Within (World.Leaves kinds) (deriveBusy credential salt kdf) :=
  within_read.bind fun _ => leaves_busy _ _

theorem leaves_unlock (credential : Credential) (bytes : HeaderBytes) :
    Within (World.Leaves kinds) (unlock credential bytes) :=
  (within_ofExcept _).bind fun _ => (leaves_deriveBusy _ _ _).bind fun _ => within_ofExcept _

theorem idle_unlock (credential : Credential) (bytes : HeaderBytes) :
    Within (World.Idle kinds) (unlock credential bytes) :=
  (quiet_unlock _ _).idle (leaves_unlock _ _)

theorem leaves_sealFor (credential : Credential) (header : VolumeHeader) :
    Within (World.Leaves kinds) (sealFor credential header) :=
  (leaves_deriveBusy _ _ _).bind fun _ => within_pure _

theorem leaves_unlockOrWarn (told : .told ∈ kinds) (credential : Credential) (bytes : HeaderBytes)
    (warning : String) : Within (World.Leaves kinds) (unlockOrWarn credential bytes warning) := by
  refine (leaves_unlock _ _).attempt.bind ?_
  intro result
  split
  · exact within_pure _
  · exact within_throw _
  · exact (leaves_tell told rfl).bind fun _ => within_pure _

theorem runIn_deriveBusy (salt : Octets 64) (kdf : KdfParams) :
    (deriveBusy credential salt kdf).runIn environment world =
      (deriveKey environment.primitives credential salt.toList kdf,
        (world.record (.told (.beginBusy "Deriving header key"))).record (.told .endBusy)) := by
  simp only [deriveBusy, busy, runIn_bind, runIn_read, runIn_tell, runIn_ofExcept]

theorem openHeader_of_parse {primitives : Primitives} {bytes : HeaderBytes} {cleartext : Cleartext}
    (parsed : Cleartext.parse bytes.toList = .ok cleartext) :
    openHeader primitives credential bytes =
      match deriveKey primitives credential cleartext.salt.toList cleartext.kdf with
      | .ok key => VolumeHeader.openWith key bytes.toList
      | .error error => .error error := by
  unfold openHeader
  rw [parsed]
  cases derived : deriveKey primitives credential cleartext.salt.toList cleartext.kdf <;>
    simp only [bind, Except.bind, derived]

/-- What opens has readable parameters, and they are those of the header. -/
theorem parse_of_openHeader {primitives : Primitives} {bytes : HeaderBytes} {header : VolumeHeader}
    (opens : openHeader primitives credential bytes = .ok header) :
    Cleartext.parse bytes.toList = .ok header.cleartext := by
  cases parsed : Cleartext.parse bytes.toList with
  | error fault =>
      rw [openHeader, parsed] at opens
      cases opens
  | ok cleartext =>
      rw [openHeader_of_parse parsed] at opens
      cases derived : deriveKey primitives credential cleartext.salt.toList cleartext.kdf with
      | error error =>
          rw [derived] at opens
          cases opens
      | ok key =>
          rw [derived] at opens
          exact parsed.symm.trans (VolumeHeader.parse_of_openWith opens).1

/-- With readable parameters a session opens a header as it would be opened without showing
anything, and shows that it takes its time. -/
theorem runIn_unlock_of_parse {bytes : HeaderBytes} {cleartext : Cleartext}
    (parsed : Cleartext.parse bytes.toList = .ok cleartext) :
    (unlock credential bytes).runIn environment world =
      (openHeader environment.primitives credential bytes,
        (world.record (.told (.beginBusy "Deriving header key"))).record (.told .endBusy)) := by
  rw [unlock, runIn_bind, runIn_ofExcept, parsed, openHeader_of_parse parsed]
  simp only [runIn_bind, runIn_deriveBusy]
  cases deriveKey environment.primitives credential cleartext.salt.toList cleartext.kdf with
  | error error => rfl
  | ok key => simp only [runIn_ofExcept]

theorem unlock_result (bytes : HeaderBytes) :
    ((unlock credential bytes).runIn environment world).1 =
      openHeader environment.primitives credential bytes := by
  cases parsed : Cleartext.parse bytes.toList with
  | error error =>
      rw [unlock, runIn_bind, runIn_ofExcept, parsed]
      unfold openHeader
      rw [parsed]
      rfl
  | ok cleartext => rw [runIn_unlock_of_parse parsed]

theorem unlock_ends (bytes : HeaderBytes) :
    (unlock credential bytes).Ends environment world fun result after =>
      world.Quiet after ∧ result = openHeader environment.primitives credential bytes :=
  ⟨quiet_unlock _ _ _ _, unlock_result bytes⟩

/-- A header that comes out is what the bytes open to, and none comes out if they do not open. -/
theorem unlockOrWarn_ends (bytes : HeaderBytes) (warning : String) :
    (unlockOrWarn credential bytes warning).Ends environment world fun result after =>
      world.Quiet after ∧
        (∀ header, result = .ok (some header) →
          openHeader environment.primitives credential bytes = .ok header) ∧
        (result = .ok none →
          ∃ error, openHeader environment.primitives credential bytes = .error error) := by
  refine ⟨quiet_unlockOrWarn _ _ _ _ _, ?_⟩
  rw [unlockOrWarn, runIn_bind, runIn_attempt, unlock_result]
  dsimp only
  cases openHeader environment.primitives credential bytes with
  | ok found =>
      constructor
      · rintro header ⟨⟩
        rfl
      · intro none
        cases none
  | error error =>
      constructor
      · intro header some
        cases error <;> cases some
      · exact fun _ => ⟨error, rfl⟩

/-- Without a warning a header comes out that opens. -/
theorem unlockOrWarn_of_opens {bytes : HeaderBytes} {header : VolumeHeader}
    (opens : openHeader environment.primitives credential bytes = .ok header) (warning : String) :
    ((unlockOrWarn credential bytes warning).runIn environment world).1 = .ok (some header) := by
  rw [unlockOrWarn, runIn_bind, runIn_attempt, unlock_result, opens]
  rfl

theorem sealFor_ends (header : VolumeHeader) :
    (sealFor credential header).Ends environment world fun result after =>
      world.Quiet after ∧ ∀ bytes, result = .ok bytes → ∃ key,
        deriveKey environment.primitives credential header.salt.toList header.kdf = .ok key ∧
          bytes = header.sealWith key := by
  refine ⟨quiet_sealFor _ _ _ _, ?_⟩
  rw [sealFor, runIn_bind, runIn_deriveBusy]
  cases deriveKey environment.primitives credential header.salt.toList header.kdf with
  | error error =>
      intro bytes ok
      cases ok
  | ok key =>
      intro bytes ok
      exact ⟨key, rfl, (Except.ok.inj ok).symm⟩

/-- What was sealed with a key opens with it to the same header. -/
theorem openHeader_sealWith {primitives : Primitives} {header : VolumeHeader} {key : HeaderKey}
    (derived : deriveKey primitives credential header.salt.toList header.kdf = .ok key) :
    openHeader primitives credential (header.sealWith key) = .ok header := by
  rw [openHeader_of_parse (VolumeHeader.parse_sealWith header key)]
  simp only [VolumeHeader.cleartext, derived]
  exact VolumeHeader.openWith_sealWith header key

end

/-! ### A header with a known key

A header under one iteration of the legacy derivation, an operator who agrees to everything, and an
environment with the standard primitives in which all else goes well but for the device.
-/

namespace Sample

def kdf : KdfParams where
  algorithm := .pbkdf2
  memory := 0
  time := 1
  lanes := 1
  one_le_time := by decide
  lanes_ok := by decide
  memory_ok := by decide

def credential : Credential := ⟨[112, 119], []⟩

def header (fill : UInt8) : VolumeHeader :=
  ⟨kdf, Vector.replicate 64 fill, 4096, Vector.replicate 256 fill⟩

def key (salt : Octets 64) : HeaderKey :=
  ⟨Digest.Pbkdf2.derive credential.password salt.toList 1 64⟩

def sealed (fill : UInt8) : HeaderBytes := (header fill).sealWith (key (header fill).salt)

/-- The answers of an operator who takes the second of two options. -/
def answer : (prompt : Prompt) → prompt.Answer
  | .password _ => credential.password
  | .keyfiles => credential.keyfiles
  | .selectFile _ _ => ⟨"b.hdr"⟩
  | .confirm _ _ _ => true
  | .choose _ _ => some 1
  | .enrichEntropy => ()

def environment (device : DeviceBehaviour) : Environment where
  primitives := .standard
  operator := fun _ _ prompt => .ok (answer prompt)
  device := device
  mount := .detached
  entropy := fun _ _ count => some (Vector.replicate count 1)
  now := .epoch

theorem onlyGives (device : DeviceBehaviour) : (environment device).OnlyGives credential :=
  ⟨fun _ _ _ _ said => (Except.ok.inj said).symm, fun _ _ _ said => (Except.ok.inj said).symm⟩

/-- A volume in memory, with files at hand. -/
def world (primary : HeaderBytes) (backup : Option HeaderBytes) (files : FileSystem) : World where
  volume := .memory primary backup
  files := files
  entropy := ⟨0, 0⟩
  mounted := false
  history := []

theorem slotsApart (primary : HeaderBytes) (backup : Option HeaderBytes) (files : FileSystem) :
    (world primary backup files).SlotsApart := by
  intro volume there
  cases there

/-- A volume of zeros with an embedded copy, next to files. -/
def blank (files : FileSystem) : World :=
  world (Octets.zero 512) (some (Octets.zero 512)) files

theorem blank_slotsApart (files : FileSystem) : (blank files).SlotsApart := slotsApart _ _ _

/-- The salt of a sealed header can be read at its front. -/
theorem head?_sealed (fill : UInt8) : (sealed fill).toList.head? = some fill := by
  rw [sealed, VolumeHeader.toList_sealWith]
  rfl

theorem sealed_ne_zero : sealed 1 ≠ Octets.zero 512 := by
  intro same
  have front := head?_sealed 1
  rw [same] at front
  revert front
  decide

variable {device : DeviceBehaviour} {start : World}

theorem ask_result (prompt : Prompt) :
    ((ask prompt).runIn (environment device) start).1 = .ok (answer prompt) := by
  rw [runIn_ask]
  rfl

theorem askCredential_result (text : String) :
    ((askCredential text).runIn (environment device) start).1 = .ok credential := by
  simp only [askCredential, runIn_bind]
  rfl

theorem requireConfirmation_result (message : String) (default warning : Bool) :
    ((requireConfirmation message default warning).runIn (environment device) start).1 = .ok () := by
  rw [requireConfirmation, runIn_bind, runIn_ask]
  rfl

theorem draw_result (count : Nat) :
    ((draw count).runIn (environment device) start).1 = .ok (Vector.replicate count 1) := by
  rw [runIn_draw]
  rfl

theorem derived (salt : Octets 64) :
    deriveKey (environment device).primitives credential salt.toList kdf = .ok (key salt) := rfl

theorem sealFor_result (fill : UInt8) :
    ((sealFor credential (header fill)).runIn (environment device) start).1 = .ok (sealed fill) := by
  rw [sealFor, runIn_bind, runIn_deriveBusy, header, derived]
  rfl

theorem opens (fill : UInt8) :
    openHeader (environment device).primitives credential (sealed fill) = .ok (header fill) :=
  openHeader_sealWith (derived _)

theorem unlock_result (fill : UInt8) :
    ((unlock credential (sealed fill)).runIn (environment device) start).1 = .ok (header fill) :=
  (Protocol.unlock_result _).trans (opens fill)

end Sample

end Protocol

end HeaderVault
