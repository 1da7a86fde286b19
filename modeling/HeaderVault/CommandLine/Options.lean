import HeaderVault.Files.Path
import HeaderVault.Text.Numeral

/-!
The commands of the program and the options that each of them takes.

An option has a long name after two dashes, and may have a letter after one. It is a flag or takes a
value, and what it settles is a `Setting`. Common options may stand before the command and after it.
-/

namespace HeaderVault

inductive Verb where
  | create
  | info
  | backup
  | restore
  | upgradeKdf
  deriving DecidableEq, Repr

namespace Verb

def all : List Verb := [.create, .info, .backup, .restore, .upgradeKdf]

def name : Verb → String
  | .create => "create"
  | .info => "info"
  | .backup => "backup"
  | .restore => "restore"
  | .upgradeKdf => "upgrade-kdf"

def named? (name : String) : Option Verb := all.find? fun verb => verb.name = name

def purpose : Verb → String
  | .create => "Creates a new volume file with fresh headers"
  | .info => "Shows the cleartext header parameters"
  | .backup => "Saves the volume headers to a backup file"
  | .restore => "Restores the volume header from a backup"
  | .upgradeKdf => "Re-wraps the header key under stronger key derivation parameters"

end Verb

/-- What an option settles. -/
inductive Setting where
  | volume (path : Path)
  | keyfile (path : Path)
  | assumeYes
  | softwareAes
  | verbose
  | size (bytes : UInt64)
  | memory (kib : UInt32)
  | time (passes : UInt32)
  | lanes (count : UInt32)
  | json
  | output (path : Path)
  | fromFile (path : Path)
  | embedded
  deriving DecidableEq, Repr

/-! ### Values -/

/-- A path, which cannot be empty. -/
def Path.ofValue? (value : String) : Option Path := if value = "" then none else some ⟨value⟩

def word64? (value : String) : Option UInt64 :=
  ((Text.unsigned? value).filter fun n => n < UInt64.size).map UInt64.ofNat

def word32? (value : String) : Option UInt32 :=
  ((Text.signed? value).filter fun n => 0 ≤ n ∧ n.toNat < UInt32.size).map fun n => UInt32.ofNat n.toNat

/-! ### Forms -/

inductive OptionKind where
  | version
  | help
  | flag (setting : Setting)
  | value (read : String → Option Setting)

/-- An option as it may be written; unless it is repeatable it is written at most once at a place.
-/
structure OptionForm where
  long : String
  short : Option Char
  repeatable : Bool
  kind : OptionKind
  purpose : String

namespace OptionForm

def help : OptionForm := ⟨"help", some 'h', false, .help, "Print help"⟩

def version : OptionForm := ⟨"version", some 'V', false, .version, "Print version"⟩

/-- Options that may stand anywhere. -/
def common : List OptionForm := [
  ⟨"volume", none, false, .value fun value => (Path.ofValue? value).map .volume,
    "Path to the volume file"⟩,
  ⟨"keyfile", none, true, .value fun value => (Path.ofValue? value).map .keyfile,
    "Keyfile combined with the password; repeat for several, order matters"⟩,
  ⟨"yes", some 'y', false, .flag .assumeYes, "Answer yes to every confirmation"⟩,
  ⟨"software-aes", none, false, .flag .softwareAes,
    "Use the portable AES implementation even when AES-NI is available"⟩,
  ⟨"verbose", some 'v', true, .flag .verbose, "Increase log verbosity"⟩,
  help]

def costs : List OptionForm := [
  ⟨"argon-mem", none, false, .value fun value => (word32? value).map .memory,
    "Argon2 memory cost in KiB"⟩,
  ⟨"argon-time", none, false, .value fun value => (word32? value).map .time,
    "Argon2 time cost / iterations"⟩,
  ⟨"argon-parallelism", none, false, .value fun value => (word32? value).map .lanes,
    "Argon2 parallelism"⟩]

def ofVerb : Verb → List OptionForm
  | .create =>
      ⟨"size", none, false, .value fun value => (word64? value).map .size,
        "Size of the data area in bytes"⟩ :: costs
  | .info => [⟨"json", none, false, .flag .json, "Print as JSON"⟩]
  | .backup => [
      ⟨"output", some 'o', false, .value fun value => (Path.ofValue? value).map .output,
        "Backup file (default: platform data directory)"⟩]
  | .restore => [
      ⟨"from-file", none, false, .value fun value => (Path.ofValue? value).map .fromFile,
        "Restore from an external backup file"⟩,
      ⟨"embedded", none, false, .flag .embedded,
        "Restore from the backup header embedded in the volume"⟩]
  | .upgradeKdf => costs

/-- Options that may stand before a command (`none`) or after it. -/
def allowed : Option Verb → List OptionForm
  | none => common ++ [version]
  | some verb => ofVerb verb ++ common

def long? (verb : Option Verb) (name : String) : Option OptionForm :=
  (allowed verb).find? fun form => form.long = name

def short? (verb : Option Verb) (letter : Char) : Option OptionForm :=
  (allowed verb).find? fun form => form.short = some letter

end OptionForm

end HeaderVault
