import ReleaseNames.Program
import ReleaseNames.Proofs.Effect

/-!
# Values stay aligned with the request

A value that is not a string refers to all packaged parts in order and to exactly
the spanned volumes in order of first occurrence, and so do its raw numbers. A
part has no numbers yet and a volume has no volume number.

This holds of the seed, every effect keeps it, and so it holds along every run.
The request need not be valid: a part without a listed volume is still a packaged
part, and only has no home to be moved to.
-/

namespace ReleaseNames

variable {r : Request}

/-- Raw numbers count the given volumes and parts, one number for each. -/
structure Notes.Aligned (volumes parts : List Nat) (n : Notes) : Prop where
  volumeNumbers : ∀ vns, n.volumeNumbers = .raw vns → vns.numbers.map (·.volume) = volumes
  partNumbers : ∀ ps, n.partNumbers = .raw ps → ps.map (·.part) = parts

/-- The volumes, parts and numbers of a value are those of the request. -/
def Value.Aligned (r : Request) : Value → Prop
  | .part i n =>
    r.parts.length = 1 ∧ i = 0 ∧ n.volumeNumbers = .absent ∧ n.partNumbers = .absent
  | .volume v parts n =>
    r.spannedVolumes = [v] ∧ parts = List.range r.parts.length ∧ n.volumeNumbers = .absent ∧
      n.Aligned [v] parts
  | .series volumes parts n =>
    volumes = r.spannedVolumes ∧ parts = List.range r.parts.length ∧ n.Aligned volumes parts
  | .seriesString _ volumes parts n =>
    volumes = r.spannedVolumes ∧ parts = List.range r.parts.length ∧ n.Aligned volumes parts
  | .string .. => True

namespace VolumeNumbers

theorem map_volume_mapTexts (f : String → String) (n : VolumeNumbers) :
    (n.mapTexts f).numbers.map (·.volume) = n.numbers.map (·.volume) := by
  simp [mapTexts]

theorem volume_merge (n : VolumeNumber) : n.merge.volume = n.volume := by
  rw [VolumeNumber.merge]
  split <;> rfl

theorem map_volume_merge (n : VolumeNumbers) :
    n.merge.numbers.map (·.volume) = n.numbers.map (·.volume) := by
  simp [merge, volume_merge]

theorem Change.map_volume {n m : VolumeNumbers} (h : n.Change m) :
    m.numbers.map (·.volume) = n.numbers.map (·.volume) := by
  cases h with
  | digits => exact map_volume_mapTexts _ n
  | pad => exact map_volume_mapTexts _ n
  | merge => exact map_volume_merge n

end VolumeNumbers

namespace PartNumber

theorem part_of_prepend {vns : VolumeNumbers} {p q : PartNumber} (h : p.prepend r vns = .ok q) :
    q.part = p.part := by
  obtain ⟨v, -, h⟩ := Outcome.bind_eq_ok.mp h
  split at h <;> cases h <;> rfl

theorem Change.map_part {slot : Slot VolumeNumbers} {ps qs : List PartNumber}
    (h : Change r slot ps qs) : qs.map (·.part) = ps.map (·.part) := by
  cases h with
  | pad => simp
  | prepend _ h => exact Outcome.map_of_mapM_eq_ok (fun _ _ => part_of_prepend) h

end PartNumber

namespace Slot.Edit

variable {α : Type} {allowed : α → α → Prop}

theorem eq_absent {t : Slot α} (h : Slot.Edit allowed .absent t) : t = .absent := by
  cases h
  rfl

theorem eq_raw {s : Slot α} {b : α} (h : s.Edit allowed (.raw b)) :
    s = .raw b ∨ ∃ a, s = .raw a ∧ allowed a b := by
  cases h with
  | keep => exact .inl rfl
  | change h => exact .inr ⟨_, rfl, h⟩

end Slot.Edit

theorem Notes.Edit.aligned {n m : Notes} {volumes parts : List Nat} (h : n.Edit r m)
    (hn : n.Aligned volumes parts) : m.Aligned volumes parts := by
  constructor
  · intro vns hm
    have hslot := h.volumeNumbers
    rw [hm] at hslot
    rcases hslot.eq_raw with hs | ⟨old, hs, hchange⟩
    · exact hn.volumeNumbers vns hs
    · exact hchange.map_volume.trans (hn.volumeNumbers old hs)
  · intro ps hm
    have hslot := h.partNumbers
    rw [hm] at hslot
    rcases hslot.eq_raw with hs | ⟨old, hs, hchange⟩
    · exact hn.partNumbers ps hs
    · exact hchange.map_part.trans (hn.partNumbers old hs)

theorem Value.aligned_of_edit {v : Value} {n m : Notes} (hn : v.notes? = some n) (h : n.Edit r m)
    (hv : v.Aligned r) : (v.mapNotes fun _ => m).Aligned r := by
  cases v with
  | part i n' =>
    cases hn
    obtain ⟨hone, hi, hvn, hpn⟩ := hv
    have hvolume := h.volumeNumbers
    have hpart := h.partNumbers
    rw [hvn] at hvolume
    rw [hpn] at hpart
    exact ⟨hone, hi, hvolume.eq_absent, hpart.eq_absent⟩
  | volume v parts n' =>
    cases hn
    obtain ⟨hspan, hparts, hvn, haligned⟩ := hv
    have hvolume := h.volumeNumbers
    rw [hvn] at hvolume
    exact ⟨hspan, hparts, hvolume.eq_absent, h.aligned haligned⟩
  | series volumes parts n' =>
    cases hn
    exact ⟨hv.1, hv.2.1, h.aligned hv.2.2⟩
  | seriesString name volumes parts n' =>
    cases hn
    exact ⟨hv.1, hv.2.1, h.aligned hv.2.2⟩
  | string s m => cases hn

theorem Request.spannedVolumes_of_homeVolume {v : Nat} (hone : r.parts.length = 1)
    (hv : r.homeVolume 0 = .ok v) : r.spannedVolumes = [v] := by
  obtain ⟨p, hp, hindex⟩ := homeVolume_eq_ok.mp hv
  obtain ⟨q, hq⟩ := List.length_eq_one_iff.mp hone
  have hpq : p = q := by simpa [hq, eq_comm] using hp
  subst hpq
  exact spannedVolumes_eq_singleton hq hindex

theorem Request.part_of_partNumber {i : Nat} {n : PartNumber} (h : r.partNumber i = .ok n) :
    n.part = i := by
  obtain ⟨p, -, rfl⟩ := partNumber_eq_ok.mp h
  rfl

theorem Request.volume_of_internalNumber {v : Nat} {n : VolumeNumber}
    (h : r.internalNumber v = .ok n) : n.volume = v := by
  obtain ⟨volume, -, rfl⟩ := internalNumber_eq_ok.mp h
  rfl

/-- One step: an aligned value stays aligned, whatever the rule does. -/
theorem Effect.aligned {v w : Value} (h : Effect r v w) (hv : v.Aligned r) : w.Aligned r := by
  cases h with
  | keep => exact hv
  | edit hn h => exact Value.aligned_of_edit hn h hv
  | partToVolume hhome hnumber =>
    obtain ⟨hone, rfl, hvn, -⟩ := hv
    refine ⟨Request.spannedVolumes_of_homeVolume hone hhome, by simp [hone], hvn, ?_⟩
    constructor
    · intro vns hraw
      rw [hvn] at hraw
      cases hraw
    · intro ps hraw
      cases hraw
      simp [Request.part_of_partNumber hnumber]
  | partToSeries hhome hvolume hnumber =>
    obtain ⟨hone, rfl, -, -⟩ := hv
    refine ⟨(Request.spannedVolumes_of_homeVolume hone hhome).symm, by simp [hone], ?_⟩
    constructor
    · intro vns hraw
      cases hraw
      simp [Request.volume_of_internalNumber hvolume]
    · intro ps hraw
      cases hraw
      simp [Request.part_of_partNumber hnumber]
  | volumeToSeries v parts n =>
    obtain ⟨hspan, hparts, -, haligned⟩ := hv
    refine ⟨hspan.symm, hparts, ?_, haligned.partNumbers⟩
    intro vns hraw
    cases hraw
    rfl
  | name => exact hv
  | rename => exact hv
  | @collapse v hterminal head =>
    cases v with
    | string s m => cases hterminal
    | _ => trivial
  | legacy => trivial
  | retext => trivial
  | mark => trivial

/-- What a request starts with: its one part, its parts in the one volume that they span, or its
parts and all the volumes that they span. -/
inductive Request.Starts (r : Request) : Value → Prop
  | part {p : Part} (hp : r.parts = [p]) : Starts r (.part 0 (.ofMarker r.marker))
  | volume {v : Nat} {ps : List PartNumber} (hspan : r.spannedVolumes = [v])
    (hps : (List.range r.parts.length).mapM r.partNumber = .ok ps) :
    Starts r (.volume v (List.range r.parts.length)
      { Notes.ofMarker r.marker with partNumbers := .raw ps })
  | series {vs : List Nat} {ps : List PartNumber} {ns : List VolumeNumber}
    (hspan : r.spannedVolumes = vs)
    (hps : (List.range r.parts.length).mapM r.partNumber = .ok ps)
    (hns : vs.mapM r.internalNumber = .ok ns) (hseveral : 1 < vs.length) :
    Starts r (.series vs (List.range r.parts.length)
      ⟨.raw ⟨ns, false⟩, .raw ps, .raw r.marker⟩)

theorem Request.starts_of_seed {v : Value} (h : r.seed = .ok v) : r.Starts v := by
  rw [seed] at h
  split at h
  · next p hp =>
    cases h
    exact .part hp
  · dsimp only at h
    split at h
    · cases h
    · next volume others hspan =>
      obtain ⟨ps, hps, h⟩ := Outcome.bind_eq_ok.mp h
      split at h
      · next hothers =>
        cases h
        subst hothers
        exact .volume hspan hps
      · next hothers =>
        obtain ⟨ns, hns, h⟩ := Outcome.bind_eq_ok.mp h
        cases h
        have hlength := List.length_pos_iff.mpr hothers
        exact .series hspan hps hns (by simpa using hlength)

theorem Request.parts_of_partNumbers {indices : List Nat} {ps : List PartNumber}
    (h : indices.mapM r.partNumber = .ok ps) : ps.map (·.part) = indices := by
  simpa using Outcome.map_of_mapM_eq_ok (k := id) (fun _ _ => part_of_partNumber) h

theorem Request.volumes_of_internalNumbers {indices : List Nat} {ns : List VolumeNumber}
    (h : indices.mapM r.internalNumber = .ok ns) : ns.map (·.volume) = indices := by
  simpa using Outcome.map_of_mapM_eq_ok (k := id) (fun _ _ => volume_of_internalNumber) h

theorem Request.aligned_of_seed {v : Value} (h : r.seed = .ok v) : v.Aligned r := by
  cases starts_of_seed h with
  | part hp => exact ⟨by simp [hp], rfl, rfl, rfl⟩
  | volume hspan hps =>
    refine ⟨hspan, rfl, rfl, ?_, ?_⟩
    · intro vns hraw
      cases hraw
    · intro qs hraw
      cases hraw
      exact parts_of_partNumbers hps
  | series hspan hps hns =>
    refine ⟨hspan.symm, rfl, ?_, ?_⟩
    · intro vns hraw
      cases hraw
      exact volumes_of_internalNumbers hns
    · intro qs hraw
      cases hraw
      exact parts_of_partNumbers hps

namespace Pipeline

/-- What every call keeps is kept by a run. -/
theorem applyAll_preserves {P : Value → Prop} {ctx : Context}
    (hstep : ∀ {call : Call} {v w : Value}, call.apply ctx v = .ok w → P v → P w)
    {calls : List Call} {v w : Value} (h : applyAll ctx calls v = .ok w) (hv : P v) : P w := by
  induction calls generalizing v with
  | nil =>
    cases h
    exact hv
  | cons call calls ih =>
    rw [applyAll] at h
    split at h
    · next next hnext => exact ih h (hstep hnext hv)
    · cases h

theorem aligned_of_applyAll {ctx : Context} {calls : List Call} {v w : Value}
    (h : applyAll ctx calls v = .ok w) (hv : v.Aligned ctx.request) : w.Aligned ctx.request :=
  applyAll_preserves (fun hstep => (Effect.of_apply hstep).aligned) h hv

theorem aligned_of_start {p : Pipeline} {ctx : Context} {title : Option String} {v : Value}
    (h : p.start ctx title = .ok v) : v.Aligned ctx.request := by
  rw [start.eq_def] at h
  split at h
  · exact Request.aligned_of_seed h
  · split at h
    · cases h
      trivial
    · cases h

end Pipeline

end ReleaseNames
