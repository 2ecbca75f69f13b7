import ReleaseNames.Proofs.Outcome
import ReleaseNames.Transform.Stage

/-!
# Where parts belong

A part belongs to the first listed volume with its number, its home. The spanned
volumes of a request are the homes of its parts. Each look-up by an index is
described by when it succeeds and with what; in a valid request every part has a
home, so looking it up cannot fail.
-/

namespace ReleaseNames.Request

variable {r : Request} {i v : Nat}

theorem getElem?_of_volumeIndex? {number : UInt32} (h : r.volumeIndex? number = some i) :
    ∃ volume, r.volumes[i]? = some volume ∧ volume.number = number := by
  obtain ⟨hi, hnumber, -⟩ := List.findIdx?_eq_some_iff_getElem.mp h
  exact ⟨r.volumes[i], List.getElem?_eq_getElem hi, by simpa using hnumber⟩

theorem mem_spannedVolumes :
    v ∈ r.spannedVolumes ↔ ∃ p ∈ r.parts, r.volumeIndex? p.volume = some v := by
  simp [spannedVolumes, List.mem_eraseDups]

theorem getElem?_of_mem_spannedVolumes (h : v ∈ r.spannedVolumes) :
    ∃ volume, r.volumes[v]? = some volume := by
  obtain ⟨p, -, hp⟩ := mem_spannedVolumes.mp h
  obtain ⟨volume, hvolume, -⟩ := getElem?_of_volumeIndex? hp
  exact ⟨volume, hvolume⟩

theorem homeVolume_eq_ok :
    r.homeVolume i = .ok v ↔ ∃ p, r.parts[i]? = some p ∧ r.volumeIndex? p.volume = some v := by
  rw [homeVolume, volumeOfPart]
  cases r.parts[i]? with
  | none => simp
  | some p => cases hp : r.volumeIndex? p.volume <;> simp [hp]

theorem eq_of_homeVolume_eq_error {e : NamingError} (h : r.homeVolume i = .error e) :
    e = .request (.strayPart i) := by
  rw [homeVolume, volumeOfPart] at h
  cases hp : r.parts[i]? with
  | none => simpa [hp] using h.symm
  | some p => cases hv : r.volumeIndex? p.volume <;> simp [hp, hv] at h; exact h.symm

theorem mem_spannedVolumes_of_homeVolume (h : r.homeVolume i = .ok v) : v ∈ r.spannedVolumes := by
  obtain ⟨p, hp, hv⟩ := homeVolume_eq_ok.mp h
  exact mem_spannedVolumes.mpr ⟨p, List.mem_of_getElem? hp, hv⟩

/-- In a valid request every packaged part has a home. -/
theorem Valid.exists_homeVolume (hr : r.Valid) (hi : i < r.parts.length) :
    ∃ v, r.homeVolume i = .ok v := by
  have hp := List.getElem?_eq_getElem hi
  obtain ⟨v, hv⟩ := Option.isSome_iff_exists.mp
    ((valid_iff.mp hr).2.2 r.parts[i] (List.getElem_mem hi))
  exact ⟨v, homeVolume_eq_ok.mpr ⟨_, hp, hv⟩⟩

theorem partAt_eq_ok {p : Part} : r.partAt i = .ok p ↔ r.parts[i]? = some p := by
  rw [partAt]
  cases r.parts[i]? <;> simp

theorem volumeAt_eq_ok {volume : Volume} :
    r.volumeAt v = .ok volume ↔ r.volumes[v]? = some volume := by
  rw [volumeAt]
  cases r.volumes[v]? <;> simp

theorem partNumber_eq_ok {n : PartNumber} :
    r.partNumber i = .ok n ↔ ∃ p, r.parts[i]? = some p ∧ ⟨i, toString p.number.toNat⟩ = n := by
  simp only [partNumber, Outcome.bind_eq_ok, partAt_eq_ok, Outcome.pure_eq_ok, Except.ok.injEq]

theorem internalNumber_eq_ok {n : VolumeNumber} :
    r.internalNumber v = .ok n ↔
      ∃ volume, r.volumes[v]? = some volume ∧ .internal v volume.number = n := by
  simp only [internalNumber, Outcome.bind_eq_ok, volumeAt_eq_ok, Outcome.pure_eq_ok,
    Except.ok.injEq]

/-- A packaged part has a record, so everything read from the record is there. -/
theorem exists_partAt (hi : i < r.parts.length) : ∃ p, r.partAt i = .ok p :=
  ⟨_, partAt_eq_ok.mpr (List.getElem?_eq_getElem hi)⟩

theorem exists_partNumber (hi : i < r.parts.length) : ∃ n, r.partNumber i = .ok n :=
  ⟨_, partNumber_eq_ok.mpr ⟨_, List.getElem?_eq_getElem hi, rfl⟩⟩

theorem exists_volumeAt (hv : v ∈ r.spannedVolumes) : ∃ volume, r.volumeAt v = .ok volume := by
  obtain ⟨volume, hvolume⟩ := getElem?_of_mem_spannedVolumes hv
  exact ⟨volume, volumeAt_eq_ok.mpr hvolume⟩

theorem exists_internalNumber (hv : v ∈ r.spannedVolumes) :
    ∃ n, r.internalNumber v = .ok n := by
  obtain ⟨volume, hvolume⟩ := getElem?_of_mem_spannedVolumes hv
  exact ⟨_, internalNumber_eq_ok.mpr ⟨volume, hvolume, rfl⟩⟩

/-- The volumes of a single part are its home alone. -/
theorem spannedVolumes_eq_singleton {p : Part} (hparts : r.parts = [p])
    (hv : r.volumeIndex? p.volume = some v) : r.spannedVolumes = [v] := by
  simp [spannedVolumes, hparts, hv, List.eraseDups_cons]

end ReleaseNames.Request
