import HeaderVault.HeaderBackup
import HeaderVault.Proofs.Header.RoundTrip

/-!
Reading saved headers back: a file that was written is read to the headers and the time it was
written with (`decode_encode`), and nothing else is read. `WellFormed` describes the files without
reading them; they are the ones that writing produces (`wellFormed_iff`), each of them for one backup
only, so that reading and writing undo each other (`decode_encode_exact`).
-/

namespace HeaderVault

/-- Two bytes that follow each other. -/
theorem Bytes.slice_two {bytes : Bytes} {offset : Nat} (inside : offset + 2 ≤ bytes.length) :
    bytes.slice offset 2 = [bytes.getD offset 0, bytes.getD (offset + 1) 0] := by
  have first : offset < bytes.length := by omega
  have second : offset + 1 < bytes.length := by omega
  rw [Bytes.slice, List.drop_eq_getElem_cons first, List.drop_eq_getElem_cons second]
  simp only [List.getD_eq_getElem?_getD, List.getElem?_eq_getElem first,
    List.getElem?_eq_getElem second]
  rfl

theorem Timestamp.ofSeconds?_seconds (time : Timestamp) : ofSeconds? time.seconds = some time :=
  dif_pos ⟨time.first_le, time.le_last⟩

namespace HeaderBackup

theorem length_magic : magic.length = 4 := by with_unfolding_all rfl

/-- The fields of a file, one after the other. -/
theorem encode_eq (saved : HeaderBackup) :
    saved.encode = magic ++ ([version, UInt8.ofNat saved.headers.length] ++
      (Bytes.ofUInt64 saved.created.seconds.toUInt64 ++ (saved.primary.toList ++
        (saved.backup.toList.flatMap Vector.toList)))) := by
  simp only [encode, headers, List.flatMap_cons, List.append_assoc]

theorem length_headers (saved : HeaderBackup) :
    saved.headers.length = 1 ∨ saved.headers.length = 2 := by
  cases backup : saved.backup <;> simp [headers, backup]

/-- The number of headers fits into a byte. -/
theorem toNat_length_headers (saved : HeaderBackup) :
    (UInt8.ofNat saved.headers.length).toNat = saved.headers.length := by
  rcases saved.length_headers with one | two
  · rw [one]; rfl
  · rw [two]; rfl

theorem length_encode (saved : HeaderBackup) :
    saved.encode.length = prefixLength + headerLength * saved.headers.length := by
  rw [encode_eq]
  cases backup : saved.backup <;>
    simp [headers, backup, length_magic, Bytes.length_ofUInt64, prefixLength, headerLength]

theorem head?_encode (saved : HeaderBackup) : saved.encode.head? = some 86 := by
  have mark : magic = [86, 75, 66, 75] := by with_unfolding_all rfl
  rw [encode_eq, mark]
  rfl

/-- Version and number of headers follow the mark. -/
theorem front_encode (saved : HeaderBackup) :
    saved.encode.take 4 = magic ∧ saved.encode.getD 4 0 = version ∧
      saved.encode.getD 5 0 = UInt8.ofNat saved.headers.length := by
  rw [encode_eq]
  refine ⟨List.take_left' length_magic, ?_, ?_⟩ <;>
    simp [List.getD_eq_getElem?_getD, List.getElem?_append_right, length_magic]

theorem created_encode (saved : HeaderBackup) :
    saved.encode.slice 6 8 = Bytes.ofUInt64 saved.created.seconds.toUInt64 := by
  rw [encode_eq, ← List.append_assoc]
  exact Bytes.slice_middle (by simp [length_magic]) (Bytes.length_ofUInt64 _)

theorem headerAt_encode_zero (saved : HeaderBackup) : headerAt saved.encode 0 = saved.primary := by
  have piece : saved.encode.slice 14 512 = saved.primary.toList := by
    rw [encode_eq, ← List.append_assoc, ← List.append_assoc]
    exact Bytes.slice_middle (by simp [length_magic, Bytes.length_ofUInt64]) (by simp)
  rw [headerAt, prefixLength, headerLength, piece, Octets.ofBytes_toList]

theorem headerAt_encode_one (saved : HeaderBackup) {second : HeaderBytes}
    (both : saved.backup = some second) : headerAt saved.encode 1 = second := by
  have piece : saved.encode.slice 526 512 = second.toList := by
    rw [encode_eq, both, ← List.append_assoc, ← List.append_assoc, ← List.append_assoc]
    exact Bytes.slice_middle (by simp [length_magic, Bytes.length_ofUInt64]) (by simp)
  rw [headerAt, prefixLength, headerLength, piece, Octets.ofBytes_toList]

/-- What was saved is read back. -/
theorem decode_encode (saved : HeaderBackup) : decode saved.encode = .ok saved := by
  obtain ⟨mark, versionRead, count⟩ := saved.front_encode
  have long : ¬(saved.encode.length < prefixLength ∨ saved.encode.take 4 ≠ magic) := by
    rw [saved.length_encode, mark]
    simp
  have whole : ¬(¬(saved.headers.length = 1 ∨ saved.headers.length = 2) ∨
      saved.encode.length ≠ prefixLength + headerLength * saved.headers.length) := by
    simp [saved.length_encode, saved.length_headers]
  have time : (saved.created.seconds.toUInt64).toInt64 = saved.created.seconds := rfl
  simp only [decode, count, saved.toNat_length_headers, if_neg long, versionRead, ne_eq,
    not_true_eq_false, if_false, if_neg whole, saved.created_encode, Bytes.toUInt64_ofUInt64, time,
    Timestamp.ofSeconds?_seconds, saved.headerAt_encode_zero]
  cases both : saved.backup with
  | none =>
      have one : saved.headers.length ≠ 2 := by simp [headers, both]
      rw [if_neg one, ← both]
  | some second =>
      have two : saved.headers.length = 2 := by simp [headers, both]
      rw [if_pos two, saved.headerAt_encode_one both, ← both]

/-! ### Which files are read -/

/-- The form of a file: its mark, the first version, a count of one or two, a time within the years
of a calendar, and as many headers as were counted, with nothing behind them. -/
def WellFormed (bytes : Bytes) : Prop :=
  ∃ (count : UInt8) (seconds : Int64) (sealed : Bytes),
    bytes = "VKBK".toUTF8.toList ++ ([1, count] ++ (Bytes.ofUInt64 seconds.toUInt64 ++ sealed)) ∧
      (count = 1 ∨ count = 2) ∧ bytes.length = 14 + 512 * count.toNat ∧
      -8334601228800 ≤ seconds.toInt ∧ seconds.toInt ≤ 8210266876799

theorem wellFormed_encode (saved : HeaderBackup) : WellFormed saved.encode := by
  refine ⟨UInt8.ofNat saved.headers.length, saved.created.seconds,
    saved.primary.toList ++ saved.backup.toList.flatMap Vector.toList, ?_, ?_, ?_, ?_⟩
  · rw [encode_eq, magic, version]
  · rcases saved.length_headers with one | two
    · left
      rw [one]
      rfl
    · right
      rw [two]
      rfl
  · rw [length_encode, toNat_length_headers, prefixLength, headerLength]
  · exact ⟨saved.created.first_le, saved.created.le_last⟩

/-- A file of the right form is what writing makes of the headers in it. -/
theorem exists_encode_of_wellFormed {bytes : Bytes} (formed : WellFormed bytes) :
    ∃ saved, encode saved = bytes := by
  obtain ⟨count, seconds, sealed, fields, counted, length, first, last⟩ := formed
  have mark : "VKBK".toUTF8.toList.length = 4 := length_magic
  have size : sealed.length = 512 * count.toNat := by
    rw [fields] at length
    simp only [List.length_append, List.length_cons, List.length_nil, mark,
      Bytes.length_ofUInt64] at length
    omega
  have header : ∀ {piece : Bytes}, piece.length = 512 →
      (Octets.ofBytes 512 piece).toList = piece := Octets.toList_ofBytes
  rcases counted with one | two
  · subst one
    have whole : sealed.length = 512 := size
    refine ⟨⟨⟨seconds, first, last⟩, Octets.ofBytes 512 sealed, none⟩, ?_⟩
    rw [encode_eq, fields, magic, version]
    simp [headers, header whole]
  · subst two
    have whole : sealed.length = 1024 := size
    refine ⟨⟨⟨seconds, first, last⟩, Octets.ofBytes 512 (sealed.take 512),
      some (Octets.ofBytes 512 (sealed.drop 512))⟩, ?_⟩
    rw [encode_eq, fields, magic, version]
    simp [headers, header, whole]

theorem wellFormed_iff {bytes : Bytes} : WellFormed bytes ↔ ∃ saved, encode saved = bytes := by
  constructor
  · exact exists_encode_of_wellFormed
  · rintro ⟨saved, rfl⟩
    exact wellFormed_encode saved

/-- Only files of the right form are read. -/
theorem wellFormed_of_decode {bytes : Bytes} {saved : HeaderBackup}
    (read : decode bytes = .ok saved) : WellFormed bytes := by
  unfold decode at read
  dsimp only at read
  split at read
  · cases read
  next mark =>
  split at read
  · cases read
  next found =>
  split at read
  · cases read
  next counted =>
  split at read
  · cases read
  next created known =>
  obtain ⟨long, mark⟩ : 14 ≤ bytes.length ∧ bytes.take 4 = magic := by
    simpa [prefixLength] using mark
  have found : bytes.getD 4 0 = 1 := Decidable.not_not.mp found
  obtain ⟨counted, length⟩ : ((bytes.getD 5 0).toNat = 1 ∨ (bytes.getD 5 0).toNat = 2) ∧
      bytes.length = prefixLength + headerLength * (bytes.getD 5 0).toNat := by
    rwa [not_or, Decidable.not_not, Decidable.not_not] at counted
  have time : (Bytes.ofUInt64 (Bytes.toUInt64 (bytes.slice 6 8)).toInt64.toUInt64) =
      bytes.slice 6 8 := by
    change Bytes.ofUInt64 (Bytes.toUInt64 (bytes.slice 6 8)) = _
    apply Bytes.ofUInt64_toUInt64
    rw [Bytes.length_slice]
    omega
  obtain ⟨inside, -⟩ := Option.dite_none_right_eq_some.mp known
  refine ⟨bytes.getD 5 0, (Bytes.toUInt64 (bytes.slice 6 8)).toInt64, bytes.drop 14, ?_, ?_, length,
    inside⟩
  · rw [time, ← found, ← Bytes.slice_two (by omega), Bytes.slice_append_drop bytes rfl,
      Bytes.slice_append_drop bytes rfl]
    change bytes = magic ++ _
    rw [← mark, List.take_append_drop]
  · rcases counted with one | two
    · exact .inl (UInt8.toNat_inj.mp one)
    · exact .inr (UInt8.toNat_inj.mp two)

/-- What is read from a file is written as this file. -/
theorem encode_of_decode {bytes : Bytes} {saved : HeaderBackup} (read : decode bytes = .ok saved) :
    saved.encode = bytes := by
  obtain ⟨written, same⟩ := exists_encode_of_wellFormed (wellFormed_of_decode read)
  rw [← same, decode_encode] at read
  cases read
  exact same

theorem decode_eq_ok {bytes : Bytes} {saved : HeaderBackup} :
    decode bytes = .ok saved ↔ saved.encode = bytes := by
  constructor
  · exact encode_of_decode
  · rintro rfl
    exact decode_encode saved

/-- Files of the right form, and no others, are read, and reading and writing undo each other: a
backup is read from exactly the file that it is written as. There is an embedded copy in it exactly
when two headers are counted. -/
theorem decode_encode_exact (bytes : Bytes) (saved : HeaderBackup) :
    ((∃ read, decode bytes = .ok read) ↔ WellFormed bytes) ∧
      (decode bytes = .ok saved ↔ saved.encode = bytes) ∧
      decode saved.encode = .ok saved ∧
      (saved.backup.isSome = true ↔ saved.encode[5]? = some 2) := by
  refine ⟨?_, decode_eq_ok, decode_encode saved, ?_⟩
  · simp only [wellFormed_iff, decode_eq_ok]
  · have counted : saved.encode[5]? = some (UInt8.ofNat saved.headers.length) := by
      rw [encode_eq]
      simp [List.getElem?_append_right, length_magic]
    rw [counted]
    cases backup : saved.backup <;> simp [headers, backup]

end HeaderBackup

end HeaderVault
