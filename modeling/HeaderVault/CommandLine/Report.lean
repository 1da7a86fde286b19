import HeaderVault.Aes.Backend
import HeaderVault.Protocol.Inspect
import HeaderVault.Text.Record

/-!
What the program tells about a volume, as lines for people and as a record for other programs.
-/

namespace HeaderVault

structure Report where
  volume : Path
  dataSize : UInt64
  backend : AesBackend
  info : HeaderInfo

namespace Report

/-! ### Lines -/

def costLines (params : KdfParams) : List String :=
  if params.algorithm.usesMemory then
    [s!"Memory cost:    {params.memory} KiB",
      s!"Time cost:      {params.time}",
      s!"Parallelism:    {params.lanes}"]
  else
    [s!"Iterations:     {params.time}"]

def backupText (info : HeaderInfo) : String :=
  if info.backupSlot then
    match info.backupKdf with
    | some params => params.display
    | none => "unreadable"
  else
    "none"

def statusText (info : HeaderInfo) : String :=
  if info.outdated then "outdated, run \x60volkey upgrade-kdf\x60" else "up to date"

def lines (report : Report) : List String :=
  [s!"Volume:         {report.volume.text}",
    s!"Data size:      {report.dataSize} bytes",
    s!"KDF:            {report.info.kdf.algorithm.name}"] ++
  costLines report.info.kdf ++
  ["Backup header:  " ++ backupText report.info,
    s!"AES backend:    {report.backend.label}",
    "Status:         " ++ statusText report.info]

def text (report : Report) : String := "\n".intercalate report.lines

/-! ### Records -/

def kdfFields (params : KdfParams) : List (String × Text.Scalar) :=
  [("algorithm", .text params.algorithm.name),
    ("mem_cost_kib", .number params.memory.toNat),
    ("time_cost", .number params.time.toNat),
    ("parallelism", .number params.lanes.toNat)]

def fields (report : Report) : List (String × Text.FieldValue) :=
  [("volume", .scalar (.text report.volume.text)),
    ("data_size", .scalar (.number report.dataSize.toNat)),
    ("aes_backend", .scalar (.text report.backend.key)),
    ("kdf", .record (kdfFields report.info.kdf)),
    ("outdated", .scalar (.truth report.info.outdated)),
    ("backup_slot", .scalar (.truth report.info.backupSlot)),
    ("backup_kdf",
      match report.info.backupKdf with
      | some params => .record (kdfFields params)
      | none => .scalar .nothing)]

def record (report : Report) : String := Text.renderRecord report.fields

end Report

end HeaderVault
