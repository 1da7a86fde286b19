import HeaderVault.Aes.Backend
import HeaderVault.Aes.Block
import HeaderVault.Aes.Cipher
import HeaderVault.Aes.Field
import HeaderVault.Aes.Schedule
import HeaderVault.Argon2.Block
import HeaderVault.Argon2.Geometry
import HeaderVault.Argon2.Instance
import HeaderVault.Argon2.LongHash
import HeaderVault.Argon2.Params
import HeaderVault.Argon2.Segment
import HeaderVault.Bytes
import HeaderVault.Checksum
import HeaderVault.CommandLine.Arguments
import HeaderVault.CommandLine.Execution
import HeaderVault.CommandLine.Help
import HeaderVault.CommandLine.Invocation
import HeaderVault.CommandLine.Operator
import HeaderVault.CommandLine.Options
import HeaderVault.CommandLine.Report
import HeaderVault.CommandLine.VariableFile
import HeaderVault.CommandLine.Variables
import HeaderVault.Credential
import HeaderVault.Digest.Blake2b
import HeaderVault.Digest.Sha512
import HeaderVault.Digest.Words
import HeaderVault.Error
import HeaderVault.FileVolume
import HeaderVault.Files.Change
import HeaderVault.Files.Disk
import HeaderVault.Files.Keyfile
import HeaderVault.Files.Path
import HeaderVault.Files.Saving
import HeaderVault.Files.System
import HeaderVault.Header.Cleartext
import HeaderVault.Header.Volume
import HeaderVault.HeaderBackup
import HeaderVault.Kdf.Derivation
import HeaderVault.Kdf.Params
import HeaderVault.Main
import HeaderVault.Proofs.Aes.Buffers
import HeaderVault.Proofs.Aes.Bulk
import HeaderVault.Proofs.Aes.Cipher
import HeaderVault.Proofs.Aes.Conformance
import HeaderVault.Proofs.Aes.Elements
import HeaderVault.Proofs.Aes.Field
import HeaderVault.Proofs.Aes.Standard
import HeaderVault.Proofs.Aes.Stored
import HeaderVault.Proofs.Argon2.Accesses
import HeaderVault.Proofs.Argon2.Checked
import HeaderVault.Proofs.Argon2.Derivation
import HeaderVault.Proofs.Argon2.Fill
import HeaderVault.Proofs.Argon2.Flat
import HeaderVault.Proofs.Argon2.Geometry
import HeaderVault.Proofs.Argon2.LaneOrder
import HeaderVault.Proofs.Argon2.LongHash
import HeaderVault.Proofs.Argon2.Messages
import HeaderVault.Proofs.Argon2.Mixing
import HeaderVault.Proofs.Argon2.Permutation
import HeaderVault.Proofs.Argon2.References
import HeaderVault.Proofs.Argon2.Standard
import HeaderVault.Proofs.Argon2.Traversal
import HeaderVault.Proofs.Argon2.Unwritten
import HeaderVault.Proofs.Binary
import HeaderVault.Proofs.Checksum
import HeaderVault.Proofs.Checksum.Remainder
import HeaderVault.Proofs.CommandLine.Actions
import HeaderVault.Proofs.CommandLine.Outcomes
import HeaderVault.Proofs.Credential
import HeaderVault.Proofs.Credential.Order
import HeaderVault.Proofs.FileVolume.Access
import HeaderVault.Proofs.FileVolume.Creation
import HeaderVault.Proofs.FileVolume.Refinement
import HeaderVault.Proofs.Files.Parents
import HeaderVault.Proofs.Files.Saving
import HeaderVault.Proofs.Files.System
import HeaderVault.Proofs.Header.Damage
import HeaderVault.Proofs.Header.Parameters
import HeaderVault.Proofs.Header.RoundTrip
import HeaderVault.Proofs.Header.Sealing
import HeaderVault.Proofs.HeaderBackup
import HeaderVault.Proofs.Kdf.Derivation
import HeaderVault.Proofs.Kdf.Totality
import HeaderVault.Proofs.Protocol.Backup
import HeaderVault.Proofs.Protocol.Commit
import HeaderVault.Proofs.Protocol.Course
import HeaderVault.Proofs.Protocol.CrashSafety
import HeaderVault.Proofs.Protocol.Faithful
import HeaderVault.Proofs.Protocol.Format
import HeaderVault.Proofs.Protocol.GivingBack
import HeaderVault.Proofs.Protocol.MasterKeys
import HeaderVault.Proofs.Protocol.Mounting
import HeaderVault.Proofs.Protocol.Preparation
import HeaderVault.Proofs.Protocol.Progress
import HeaderVault.Proofs.Protocol.Provenance
import HeaderVault.Proofs.Protocol.Refusals
import HeaderVault.Proofs.Protocol.Repetition
import HeaderVault.Proofs.Protocol.Restore
import HeaderVault.Proofs.Protocol.Rewrapping
import HeaderVault.Proofs.Protocol.Sealing
import HeaderVault.Proofs.Protocol.Strength
import HeaderVault.Proofs.Protocol.Upgrade
import HeaderVault.Proofs.Session.Asking
import HeaderVault.Proofs.Session.Atomicity
import HeaderVault.Proofs.Session.Course
import HeaderVault.Proofs.Session.CutOff
import HeaderVault.Proofs.Session.Faults
import HeaderVault.Proofs.Session.Operator
import HeaderVault.Proofs.Session.Quiet
import HeaderVault.Proofs.Session.Runs
import HeaderVault.Proofs.Session.Saving
import HeaderVault.Proofs.Session.Slots
import HeaderVault.Proofs.Session.Tracing
import HeaderVault.Proofs.Xts.DataUnits
import HeaderVault.Proofs.Xts.Field
import HeaderVault.Proofs.Xts.Masking
import HeaderVault.Protocol.Backup
import HeaderVault.Protocol.Commit
import HeaderVault.Protocol.Format
import HeaderVault.Protocol.Inspect
import HeaderVault.Protocol.Restore
import HeaderVault.Protocol.Sealing
import HeaderVault.Protocol.Upgrade
import HeaderVault.Session
import HeaderVault.Session.Event
import HeaderVault.Session.World
import HeaderVault.Text.Blank
import HeaderVault.Text.Invisible
import HeaderVault.Text.Numeral
import HeaderVault.Text.Quoted
import HeaderVault.Text.Record
import HeaderVault.Text.Runs
import HeaderVault.Text.WordCharacter
import HeaderVault.Xts
