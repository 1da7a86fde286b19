import HeaderVault.Proofs.HeaderBackup
import HeaderVault.Proofs.Protocol.Backup
import HeaderVault.Proofs.Protocol.Format
import HeaderVault.Proofs.Protocol.Restore
import HeaderVault.Proofs.Protocol.Upgrade
import HeaderVault.Protocol.Inspect

/-!
The master keys of a volume outlive what is done to it.

`Run` is a run of operations on a volume, each in an environment of its own, with one credential and
with backup files that were written in the same run. `Intact` says that both slots and all these
files carry the same contents. Every operation keeps that, however it ends (`Intact.step`), and so
does every run (`Run.intact`): a volume that was formatted with an embedded copy opens to the keys
that were drawn then.
-/

namespace HeaderVault

/-! ### Runs -/

/-- What can be done with a volume that has headers. -/
inductive Operation where
  | inspect (recommended : KdfParams)
  | backup
  | restore
  | upgrade (recommended : KdfParams)

namespace Operation

/-- The world that an operation leaves behind, whether or not it succeeds. -/
def after (operation : Operation) (environment : Environment) (world : World) : World :=
  match operation with
  | .inspect recommended => ((Protocol.inspect recommended).runIn environment world).2
  | .backup => (Protocol.backup.runIn environment world).2
  | .restore => (Protocol.restore.runIn environment world).2
  | .upgrade recommended => ((Protocol.upgrade recommended).runIn environment world).2

/-- A successful backup has written the file that is at a location. -/
def Writes (operation : Operation) (environment : Environment) (world : World)
    (location : Location) : Prop :=
  operation = .backup ∧ ∃ path, (Protocol.backup.runIn environment world).1 = .ok path ∧
    location = path.location world.files.working

end Operation

/-- What is asked of the environment of an operation: it gives one credential, its device is
recoverable and honest, a backup does not go to the volume itself, and a restore takes a file that
was saved before. -/
structure Operation.Allowed (operation : Operation) (primitives : Primitives)
    (credential : Credential) (saved : Location → Prop) (environment : Environment) (world : World) :
    Prop where
  primitives : environment.primitives = primitives
  credential : environment.OnlyGives credential
  recoverable : environment.device.Recoverable world.history
  honest : environment.device.Honest
  outside : operation = .backup → ∀ history title path,
    environment.operator history world.files (.selectFile title .new) = .ok path →
      world.Outside (path.location world.files.working)
  known : operation = .restore → ∀ history title path,
    environment.operator history world.files (.selectFile title .existing) = .ok path →
      saved (path.location world.files.working)

/-- Worlds that operations lead to, with the places of the files that backups have written. -/
inductive Run (primitives : Primitives) (credential : Credential) (start : World) :
    World → (Location → Prop) → Prop
  | start : Run primitives credential start start fun _ => False
  | step {world : World} {saved : Location → Prop} (run : Run primitives credential start world saved)
      (operation : Operation) (environment : Environment)
      (allowed : operation.Allowed primitives credential saved environment world) :
      Run primitives credential start (operation.after environment world) fun location =>
        saved location ∨ operation.Writes environment world location

/-! ### What a run keeps -/

/-- Both slots carry the contents, and so does every file that was saved. -/
structure Intact (primitives : Primitives) (contents : Contents) (world : World)
    (saved : Location → Prop) : Prop where
  apart : world.SlotsApart
  slots : ∀ slot, world.SlotHas primitives contents slot
  files : ∀ location, saved location → world.Outside location ∧
    ∃ backup : HeaderBackup, world.files.get? location = some (.file backup.encode) ∧
      ∀ bytes ∈ backup.headers, contents.In primitives bytes

theorem Contents.In.rewraps {contents : Contents} {primitives : Primitives} {kdf : KdfParams}
    {former renewed : HeaderBytes} (carries : contents.In primitives former)
    (rewraps : Rewraps primitives contents.credential kdf former renewed) :
    contents.In primitives renewed := by
  obtain ⟨header, opens, dataSize, keyArea⟩ := carries
  obtain ⟨salt, reopens⟩ := rewraps.opens opens
  exact ⟨_, reopens, dataSize, keyArea⟩

namespace Intact

variable {primitives : Primitives} {contents : Contents} {world after : World}
variable {saved : Location → Prop}

/-- Where slots have changed at most, the files are as before. -/
theorem of_elsewhere (intact : Intact primitives contents world saved)
    (elsewhere : world.Elsewhere after) (slots : ∀ slot, after.SlotHas primitives contents slot) :
    Intact primitives contents after saved where
  apart := elsewhere.slotsApart intact.apart
  slots := slots
  files location known := by
    obtain ⟨outside, backup, found, carries⟩ := intact.files location known
    exact ⟨elsewhere.outside outside, backup, (elsewhere.get? location outside).trans found, carries⟩

theorem of_unharmed (intact : Intact primitives contents world saved)
    (unharmed : world.Unharmed after) : Intact primitives contents after saved :=
  intact.of_elsewhere unharmed.elsewhere fun slot =>
    (intact.slots slot).of_eq (unharmed.stored slot)

theorem in_of_stored (intact : Intact primitives contents world saved) {slot : HeaderSlot}
    {bytes : HeaderBytes} (held : world.stored slot = .ok bytes) : contents.In primitives bytes := by
  obtain ⟨stored, holds, carries⟩ := intact.slots slot
  rw [held] at holds
  cases holds
  exact carries

/-- A claim about fewer files is a weaker one. -/
theorem of_imp (intact : Intact primitives contents world saved) {known : Location → Prop}
    (fewer : ∀ location, known location → saved location) :
    Intact primitives contents world known :=
  ⟨intact.apart, intact.slots, fun location written => intact.files location (fewer location written)⟩

/-- A file that was saved is read back to headers that carry the contents. -/
theorem decode_saved (intact : Intact primitives contents world saved) {path : Path} {data : Bytes}
    (known : saved (path.location world.files.working)) (found : world.files.read path = .ok data) :
    ∃ backup, HeaderBackup.decode data = .ok backup ∧
      ∀ bytes ∈ backup.headers, contents.In primitives bytes := by
  obtain ⟨-, backup, held, carries⟩ := intact.files _ known
  obtain ⟨location, resolved, content⟩ := exists_of_bind found
  rw [FileSystem.resolve_eq resolved, FileSystem.contentAt_eq_ok, held] at content
  cases content
  exact ⟨backup, backup.decode_encode, carries⟩

/-- A renewed slot carries what it carried. -/
theorem slotHas_of_renewed (intact : Intact primitives contents world saved) {slot : HeaderSlot}
    {kdf : KdfParams}
    (renewed : World.SlotRenewed primitives contents.credential kdf slot world after) :
    after.SlotHas primitives contents slot := by
  obtain ⟨former, bytes, held, stored, rewraps⟩ := renewed
  exact ⟨bytes, stored, (intact.in_of_stored held).rewraps rewraps⟩

theorem of_keepsFiles (intact : Intact primitives contents world saved)
    (keeps : world.KeepsFiles after) : Intact primitives contents after saved where
  apart := World.slotsApart_of_eq keeps.volume intact.apart
  slots slot := by
    obtain ⟨bytes, held, carries⟩ := intact.slots slot
    exact ⟨bytes, keeps.stored held, carries⟩
  files location known := by
    obtain ⟨outside, backup, found, carries⟩ := intact.files location known
    exact ⟨World.outside_of_eq keeps.volume keeps.files.working outside, backup,
      keeps.files.get? location _ found, carries⟩

/-- Headers that carry the contents may be saved wherever the volume is not, also in the place of
an earlier file. -/
theorem of_saves (intact : Intact primitives contents world saved) {target : Location}
    {backup : HeaderBackup} (saves : world.Saves target backup.encode after)
    (outside : world.Outside target)
    (carries : ∀ bytes ∈ backup.headers, contents.In primitives bytes) :
    Intact primitives contents after fun location => saved location ∨ location = target where
  apart := World.slotsApart_of_eq saves.volume intact.apart
  slots slot := by
    obtain ⟨bytes, held, carriesSlot⟩ := intact.slots slot
    exact ⟨bytes, saves.stored outside held, carriesSlot⟩
  files location known := by
    have still : ∀ {location}, world.Outside location → after.Outside location :=
      World.outside_of_eq saves.volume saves.files.working
    by_cases same : location = target
    · rw [same]
      exact ⟨still outside, backup, saves.files.replaced, carries⟩
    · obtain ⟨elsewhere, former, found, carriesFormer⟩ :=
        intact.files location (known.resolve_right same)
      exact ⟨still elsewhere, former, saves.files.get? location same _ found, carriesFormer⟩

end Intact

/-! ### The operations -/

namespace Protocol

open Session

variable {environment : Environment} {contents : Contents} {world : World}
variable {saved : Location → Prop}

theorem quiet_inspect (recommended : KdfParams) : Within World.Quiet (inspect recommended) := by
  refine (quiet_readHeader _).bind fun _ => (within_ofExcept _).bind fun _ =>
    within_hasBackupSlot.bind fun _ => Within.ite (fun _ => ?_) (fun _ => ?_)
  · exact (quiet_readHeader _).bind fun _ => within_pure _
  · exact within_pure _

/-- Whatever a restore may take its headers from, they carry the contents. -/
theorem Candidate.From.carries {candidate : Candidate} (origin : candidate.From environment world)
    (intact : Intact environment.primitives contents world saved)
    (known : ∀ history title path,
      environment.operator history world.files (.selectFile title .existing) = .ok path →
        saved (path.location world.files.working)) :
    contents.In environment.primitives candidate.primary ∧
      ∀ bytes, candidate.extra = some bytes → contents.In environment.primitives bytes := by
  cases origin with
  | embedded held =>
      constructor
      · exact intact.in_of_stored held
      · intro bytes extra
        cases extra
  | file chosen found decoded =>
      obtain ⟨history, chosen⟩ := chosen
      obtain ⟨backup, decodes, carries⟩ := intact.decode_saved (known _ _ _ chosen) found
      rw [decodes] at decoded
      cases decoded
      constructor
      · exact carries _ List.mem_cons_self
      · intro bytes extra
        exact carries bytes (List.mem_cons_of_mem _ (Option.mem_toList.mpr extra))

theorem upgrade_keeps {recommended : KdfParams}
    (intact : Intact environment.primitives contents world saved)
    (recoverable : environment.device.Recoverable world.history)
    (honest : environment.device.Honest) (only : environment.OnlyGives contents.credential) :
    (upgrade recommended).Ends environment world fun _ after =>
      Intact environment.primitives contents after saved := by
  refine (upgrade_ends recoverable intact.apart).mono ?_
  rintro (error | current | ⟨before, renewedTo, remounted⟩) after
  · exact fun unharmed => intact.of_unharmed unharmed
  · exact fun unharmed => intact.of_unharmed unharmed
  rintro ⟨credential, gives, renewed⟩
  obtain rfl := only.eq gives
  apply intact.of_elsewhere renewed.elsewhere
  intro slot
  cases slot with
  | primary => exact intact.slotHas_of_renewed (renewed.primary honest)
  | backup =>
      rcases renewed.backup honest with backup | ⟨-, same⟩
      · exact intact.slotHas_of_renewed backup
      · exact (intact.slots .backup).of_eq same

theorem restore_keeps (intact : Intact environment.primitives contents world saved)
    (recoverable : environment.device.Recoverable world.history)
    (honest : environment.device.Honest)
    (known : ∀ history title path,
      environment.operator history world.files (.selectFile title .existing) = .ok path →
        saved (path.location world.files.working)) :
    restore.Ends environment world fun _ after =>
      Intact environment.primitives contents after saved := by
  refine (restore_ends recoverable intact.apart).mono ?_
  rintro (error | source) after
  · rintro (quiet | undone | ⟨candidate, origin, ⟨content, stores, sound⟩, -⟩)
    · exact intact.of_unharmed quiet.unharmed
    · exact intact.of_unharmed undone.unharmed
    -- The primary header stays although the restore failed, but it is one that carries the contents.
    obtain rfl := sound honest
    apply intact.of_elsewhere stores.elsewhere
    intro slot
    cases slot with
    | primary => exact ⟨_, stores.stored, (origin.carries intact known).1⟩
    | backup => exact (intact.slots .backup).of_eq (stores.other .backup (by decide))
  · rintro ⟨candidate, -, origin, restored⟩
    obtain ⟨carries, carriesExtra⟩ := origin.carries intact known
    apply intact.of_elsewhere restored.elsewhere
    intro slot
    cases slot with
    | primary => exact ⟨_, restored.primary honest, carries⟩
    | backup =>
        rcases restored.backup honest with same | ⟨bytes, extra, stored⟩
        · exact (intact.slots .backup).of_eq same
        · exact ⟨bytes, stored, carriesExtra bytes extra⟩

theorem backup_keeps (intact : Intact environment.primitives contents world saved)
    (recoverable : environment.device.Recoverable world.history)
    (outside : ∀ history title path,
      environment.operator history world.files (.selectFile title .new) = .ok path →
        world.Outside (path.location world.files.working)) :
    backup.Ends environment world fun result after =>
      Intact environment.primitives contents after fun location => saved location ∨
        ∃ path, result = .ok path ∧ location = path.location world.files.working := by
  have backedUp : ∀ path after, BackedUp environment world path after →
      Intact environment.primitives contents after fun location => saved location ∨
        location = path.location world.files.working := by
    rintro path after ⟨backup, ⟨history, chosen⟩, saves, heldPrimary, heldBackup⟩
    refine intact.of_saves saves (outside _ _ _ chosen) ?_
    intro bytes held
    rcases List.mem_cons.mp held with rfl | held
    · exact intact.in_of_stored heldPrimary
    · exact intact.in_of_stored (heldBackup bytes (Option.mem_toList.mp held))
  refine (backup_ends recoverable).mono ?_
  rintro (error | path) after
  · rintro (keeps | ⟨-, path, ends⟩)
    · apply (intact.of_keepsFiles keeps).of_imp
      rintro location (known | ⟨path, failed, -⟩)
      · exact known
      · cases failed
    · apply (backedUp path after ends).of_imp
      rintro location (known | ⟨path, failed, -⟩)
      · exact .inl known
      · cases failed
  · intro ends
    apply (backedUp path after ends).of_imp
    rintro location (known | ⟨path, ok, rfl⟩)
    · exact .inl known
    · cases ok
      exact .inr rfl

end Protocol

/-- Every operation keeps the contents, however it ends. -/
theorem Intact.step {primitives : Primitives} {contents : Contents} {world : World}
    {saved : Location → Prop} (intact : Intact primitives contents world saved)
    {operation : Operation} {environment : Environment}
    (allowed : operation.Allowed primitives contents.credential saved environment world) :
    Intact primitives contents (operation.after environment world) fun location =>
      saved location ∨ operation.Writes environment world location := by
  obtain ⟨rfl, only, recoverable, honest, outside, known⟩ := allowed
  have noFile : ∀ {operation : Operation}, operation ≠ .backup → ∀ location,
      saved location ∨ operation.Writes environment world location → saved location := by
    rintro operation other location (written | ⟨isBackup, -⟩)
    · exact written
    · exact absurd isBackup other
  cases operation with
  | inspect recommended =>
      have quiet := Protocol.quiet_inspect recommended environment world
      exact (intact.of_unharmed quiet.unharmed).of_imp (noFile (by simp))
  | backup =>
      refine Intact.of_imp (Protocol.backup_keeps intact recoverable (outside rfl)) ?_
      rintro location (written | ⟨-, written⟩)
      · exact .inl written
      · exact .inr written
  | restore =>
      refine Intact.of_imp ?_ (noFile (by simp))
      exact Protocol.restore_keeps intact recoverable honest (known rfl)
  | upgrade recommended =>
      refine Intact.of_imp ?_ (noFile (by simp))
      exact Protocol.upgrade_keeps intact recoverable honest only

theorem Run.intact {primitives : Primitives} {contents : Contents} {start world : World}
    {saved : Location → Prop} (run : Run primitives contents.credential start world saved)
    (first : Intact primitives contents start fun _ => False) :
    Intact primitives contents world saved := by
  induction run with
  | start => exact first
  | step run operation environment allowed intact => exact intact.step allowed

/-- After any run on a volume that was formatted with an embedded copy, both slots open to the keys
that were drawn when it was formatted. -/
theorem run_keeps_master_keys {environment : Environment} {credential : Credential}
    {kdf : KdfParams} {dataSize : UInt64} {blank start : World} (both : blank.hasBackupSlot = true)
    (apart : blank.SlotsApart) (recoverable : environment.device.Recoverable blank.history)
    (honest : environment.device.Honest) (only : environment.OnlyGives credential)
    (formatted : (Protocol.format kdf dataSize).runIn environment blank = (.ok (), start)) :
    ∃ keyArea,
      environment.entropy (blank.entropy.requests + 1) blank.entropy.taken 256 = some keyArea ∧
        ∀ world saved, Run environment.primitives credential start world saved →
          ∀ slot, ∃ bytes header, world.stored slot = .ok bytes ∧
            Protocol.openHeader environment.primitives credential bytes = .ok header ∧
              header.dataSize = dataSize ∧ header.keyArea = keyArea := by
  obtain ⟨elsewhere, opens⟩ := (Protocol.format_ends recoverable apart).of_runIn formatted
  obtain ⟨given, keyArea, gives, drawn, slots⟩ := opens honest
  obtain rfl := only.eq gives
  refine ⟨keyArea, drawn, ?_⟩
  intro world saved run slot
  have first : Intact environment.primitives ⟨given, dataSize, keyArea⟩ start fun _ => False :=
    ⟨elsewhere.slotsApart apart, fun slot => slots slot (.inr both), fun _ written => written.elim⟩
  obtain ⟨bytes, held, header, opens, size, keys⟩ := (run.intact first).slots slot
  exact ⟨bytes, header, held, opens, size, keys⟩

/-! ### A run that ends with a torn write -/

namespace Protocol.Sample

theorem format_faithful (files : FileSystem) :
    (format kdf 4096).Ends (environment .faithful) (blank files) fun result _ => result = .ok () := by
  refine format_ends (fun _ _ => rfl) (fun _ _ _ => rfl) ?_
  intro drawn stores
  have heldBackup : drawn.stored .backup = .ok (Octets.zero 512) :=
    stores.other .backup (by decide)
  have apart := stores.elsewhere.slotsApart (blank_slotsApart files)
  refine .bind ((install_ends (fun _ _ => rfl) (fun _ _ _ => rfl) apart heldBackup).mono ?_)
  rintro _ installed ⟨rfl, -⟩
  rfl

end Protocol.Sample

/-- A volume of zeros is formatted, and then upgraded on a device on which the writes tear. -/
theorem run_keeps_master_keys_torn :
    let environment := Protocol.Sample.environment .torn
    let kdf := Protocol.Sample.kdf
    ∃ start, (Protocol.format kdf 4096).runIn (Protocol.Sample.environment .faithful)
        (Protocol.Sample.blank ⟨[], []⟩) = (.ok (), start) ∧
      ∀ slot, ∃ bytes header,
        ((Operation.upgrade kdf).after environment start).stored slot = .ok bytes ∧
          Protocol.openHeader .standard Protocol.Sample.credential bytes = .ok header ∧
            header.dataSize = 4096 ∧ header.keyArea = Vector.replicate 256 1 := by
  intro environment kdf
  obtain ⟨_, start, formatted, rfl⟩ := (Protocol.Sample.format_faithful ⟨[], []⟩).exists_run
  obtain ⟨keyArea, drawn, keeps⟩ := run_keeps_master_keys rfl (Protocol.Sample.blank_slotsApart _)
    (DeviceBehaviour.recoverable_faithful _) DeviceBehaviour.honest_faithful
    (Protocol.Sample.onlyGives _) formatted
  obtain rfl := Option.some.inj drawn
  have allowed : (Operation.upgrade kdf).Allowed .standard Protocol.Sample.credential
      (fun _ => False) environment start := {
    primitives := rfl
    credential := Protocol.Sample.onlyGives _
    recoverable := DeviceBehaviour.recoverable_torn _
    honest := DeviceBehaviour.honest_torn
    outside := nofun
    known := nofun }
  exact ⟨start, formatted, keeps _ _ (.step .start (.upgrade kdf) environment allowed)⟩

end HeaderVault
