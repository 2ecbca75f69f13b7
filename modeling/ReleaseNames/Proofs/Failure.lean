import ReleaseNames.Proofs.Overflow

/-!
# How a pipeline fails

On values that are aligned with the request every look-up by an index succeeds.
A rule can then fail in three ways: it does not accept the value, it needs the home
of a part that has none, or it overflows. The last does not happen to the volume
numbers that a run makes, and in a valid request every part has a home. So a
pipeline fails only by a rule that does not accept its value, by ending before a
string, or by ending on an empty one.
-/

namespace ReleaseNames

variable {r : Request}

def Request.Strays (r : Request) (e : NamingError) : Prop :=
  ∃ i, i < r.parts.length ∧ r.homeVolume i = .error e

theorem Request.Strays.eq {e : NamingError} (h : r.Strays e) :
    ∃ i, e = .request (.strayPart i) := by
  obtain ⟨i, -, hi⟩ := h
  exact ⟨i, eq_of_homeVolume_eq_error hi⟩

theorem Request.Valid.not_strays {e : NamingError} (hr : r.Valid) : ¬ r.Strays e := by
  rintro ⟨i, hi, herror⟩
  obtain ⟨v, hv⟩ := hr.exists_homeVolume hi
  rw [hv] at herror
  cases herror

theorem PartNumber.strays_of_prepend {vns : VolumeNumbers} {p : PartNumber} {e : NamingError}
    (hp : p.part < r.parts.length) (h : p.prepend r vns = .error e) : r.Strays e := by
  rcases Outcome.bind_eq_error.mp h with h | ⟨home, -, h⟩
  · exact ⟨p.part, hp, h⟩
  · split at h <;> cases h

theorem Notes.strays_of_prependVolumeNumbers {several : Bool} {n : Notes} {e : NamingError}
    (hparts : ∀ vns ps, n.volumeNumbers = .raw vns → n.partNumbers = .raw ps →
      ∀ p ∈ ps, p.part < r.parts.length)
    (h : n.prependVolumeNumbers r several = .error e) : r.Strays e := by
  rw [prependVolumeNumbers] at h
  split at h
  · next vns ps hvns hps =>
    split at h
    · cases h
    · rcases Outcome.bind_eq_error.mp h with h | ⟨qs, -, h⟩
      · obtain ⟨p, hp, h⟩ := Outcome.exists_of_mapM_eq_error h
        exact PartNumber.strays_of_prepend (hparts vns ps hvns hps p hp) h
      · cases h
  · cases h

namespace Value

theorem lt_of_aligned_part {i : Nat} {n : Notes} (h : (Value.part i n).Aligned r) :
    i < r.parts.length := by
  obtain ⟨hone, rfl, -⟩ := h
  omega

theorem mem_of_aligned_volume {v : Nat} {parts : List Nat} {n : Notes}
    (h : (Value.volume v parts n).Aligned r) : v ∈ r.spannedVolumes := by
  rw [h.1]
  exact List.mem_singleton_self v

variable {v : Value} {e : NamingError}

theorem strays_of_partToVolume (hv : v.Aligned r) (h : v.partToVolume r = .error e) :
    r.Strays e := by
  cases v with
  | part i n =>
    have hi := lt_of_aligned_part hv
    rcases Outcome.bind_eq_error.mp h with h | ⟨home, -, h⟩
    · exact ⟨i, hi, h⟩
    · obtain ⟨number, hnumber⟩ := Request.exists_partNumber hi
      rw [hnumber] at h
      cases h
  | _ => cases h

theorem strays_of_partToSeries (hv : v.Aligned r) (h : v.partToSeries r = .error e) :
    r.Strays e := by
  cases v with
  | part i n =>
    have hi := lt_of_aligned_part hv
    rcases Outcome.bind_eq_error.mp h with h | ⟨home, hhome, h⟩
    · exact ⟨i, hi, h⟩
    · obtain ⟨volumeNumber, hvolume⟩ :=
        Request.exists_internalNumber (Request.mem_spannedVolumes_of_homeVolume hhome)
      obtain ⟨partNumber, hpart⟩ := Request.exists_partNumber hi
      rw [hvolume, Outcome.ok_bind, hpart] at h
      cases h
  | _ => cases h

theorem volumeToSeries_ne_error (hv : v.Aligned r) : v.volumeToSeries r ≠ .error e := by
  intro h
  cases v with
  | volume v parts n =>
    obtain ⟨number, hnumber⟩ := Request.exists_internalNumber (mem_of_aligned_volume hv)
    simp only [volumeToSeries, hnumber, Outcome.ok_bind] at h
    cases h
  | _ => cases h

theorem splitVolume_ne_error (hv : v.Aligned r) : v.splitVolume r ≠ .error e := by
  intro h
  cases v with
  | volume v parts n =>
    obtain ⟨listed, hlisted⟩ := Request.exists_volumeAt (mem_of_aligned_volume hv)
    simp only [splitVolume, hlisted, Outcome.ok_bind] at h
    split at h <;> cases h
  | _ => cases h

theorem strays_of_toSeries (hv : v.Aligned r) (h : v.toSeries r = .error e) : r.Strays e := by
  rcases Outcome.bind_eq_error.mp h with h | ⟨w, hw, h⟩
  · exact absurd h (volumeToSeries_ne_error hv)
  · exact strays_of_partToSeries ((Effect.of_volumeToSeries hw).aligned hv) h

theorem partTitle_ne_error (hv : v.Aligned r) : v.partTitle r ≠ .error e := by
  intro h
  cases v with
  | part i n =>
    obtain ⟨p, hp⟩ := Request.exists_partAt (lt_of_aligned_part hv)
    simp only [partTitle, hp, Outcome.ok_bind] at h
    cases h
  | _ => cases h

theorem volumeTitle_ne_error (hv : v.Aligned r) : v.volumeTitle r ≠ .error e := by
  intro h
  cases v with
  | volume v parts n =>
    obtain ⟨listed, hlisted⟩ := Request.exists_volumeAt (mem_of_aligned_volume hv)
    simp only [volumeTitle, hlisted, Outcome.ok_bind] at h
    cases h
  | _ => cases h

theorem strays_of_members (hv : v.Aligned r) (h : v.members r = .error e) : r.Strays e := by
  cases v with
  | part i n =>
    rcases Outcome.bind_eq_error.mp h with h | ⟨home, -, h⟩
    · exact ⟨i, lt_of_aligned_part hv, h⟩
    · cases h
  | _ => cases h

/-- The members of a value are spanned volumes and packaged parts. -/
theorem mem_of_members {volumes parts : List Nat} (hv : v.Aligned r)
    (h : v.members r = .ok (volumes, parts)) :
    (∀ i ∈ volumes, i ∈ r.spannedVolumes) ∧ ∀ i ∈ parts, i < r.parts.length := by
  cases v with
  | part i n =>
    obtain ⟨home, hhome, h⟩ := Outcome.bind_eq_ok.mp h
    cases h
    simpa using ⟨Request.mem_spannedVolumes_of_homeVolume hhome, lt_of_aligned_part hv⟩
  | volume v ps n =>
    cases h
    exact ⟨by simp [hv.1], by simp [hv.2.1]⟩
  | series vs ps n =>
    cases h
    exact ⟨by simp [hv.1], by simp [hv.2.1]⟩
  | seriesString name vs ps n =>
    cases h
    exact ⟨by simp [hv.1], by simp [hv.2.1]⟩
  | string s m =>
    cases h
    simp

theorem strays_of_legacyTitle {ctx : Context} (hterminal : v.isTerminal = false)
    (hv : v.Aligned ctx.request) (h : v.legacyTitle ctx = .error e) : ctx.request.Strays e := by
  rw [legacyTitle, hterminal] at h
  rcases Outcome.bind_eq_error.mp h with h | ⟨⟨volumes, parts⟩, hmembers, h⟩
  · exact strays_of_members hv h
  obtain ⟨hvolumes, hparts⟩ := mem_of_members hv hmembers
  rcases Outcome.bind_eq_error.mp h with h | ⟨_, -, h⟩
  · obtain ⟨i, hi, h⟩ := Outcome.exists_of_mapM_eq_error h
    obtain ⟨volume, hvolume⟩ := Request.exists_volumeAt (hvolumes i hi)
    rw [hvolume] at h
    cases h
  rcases Outcome.bind_eq_error.mp h with h | ⟨_, -, h⟩
  · obtain ⟨i, hi, h⟩ := Outcome.exists_of_mapM_eq_error h
    obtain ⟨p, hp⟩ := Request.exists_partAt (hparts i hi)
    rw [hp] at h
    cases h
  · cases h

/-- Raw part numbers next to raw volume numbers are those of packaged parts. -/
theorem lt_of_mem_partNumbers {n : Notes} {vns : VolumeNumbers} {ps : List PartNumber}
    (hv : v.Aligned r) (hn : v.notes? = some n) (hvns : n.volumeNumbers = .raw vns)
    (hps : n.partNumbers = .raw ps) : ∀ p ∈ ps, p.part < r.parts.length := by
  intro p hp
  have hmem := List.mem_map_of_mem (f := (·.part)) hp
  cases v with
  | part i n' =>
    cases hn
    rw [hv.2.2.1] at hvns
    cases hvns
  | volume v parts n' =>
    cases hn
    rw [hv.2.2.1] at hvns
    cases hvns
  | series volumes parts n' =>
    cases hn
    rw [hv.2.2.partNumbers ps hps, hv.2.1] at hmem
    exact List.mem_range.mp hmem
  | seriesString name volumes parts n' =>
    cases hn
    rw [hv.2.2.partNumbers ps hps, hv.2.1] at hmem
    exact List.mem_range.mp hmem
  | string s m => cases hn

theorem strays_of_prependVolumeNumbers {several : Bool} (hv : v.Aligned r)
    (h : v.mapNotesM (Notes.prependVolumeNumbers r several) = .error e) : r.Strays e := by
  cases hn : v.notes? with
  | none =>
    rw [mapNotesM_of_notes?_eq_none hn] at h
    cases h
  | some n =>
    exact n.strays_of_prependVolumeNumbers (fun _ _ => lt_of_mem_partNumbers hv hn)
      ((mapNotesM_eq_error hn).mp h)

end Value

/-- A rule that fails on an aligned value that it accepts has met a part without a home, or it
overflows. That legacy titles refuse a string is no third way, since their rule accepts none. -/
theorem Call.cause_of_transform {call : Call} {ctx : Context} {v : Value} {e : NamingError}
    (ha : call.rule.accepts.admits v = true) (hv : v.Aligned ctx.request)
    (h : call.transform ctx v = .error e) :
    ctx.request.Strays e ∨ call.Overflows v ∧ e = .overflow .successor := by
  obtain ⟨rule, args⟩ := call
  cases rule with
  | pToVolume => exact .inl (Value.strays_of_partToVolume hv h)
  | pToSeries => exact .inl (Value.strays_of_partToSeries hv h)
  | pSplitPart => exact .inl (Value.strays_of_partToVolume hv h)
  | pTitle => exact (Value.partTitle_ne_error hv h).elim
  | pnPrependVn => exact .inl (Value.strays_of_prependVolumeNumbers hv h)
  | pnPrependVnIfMultiple => exact .inl (Value.strays_of_prependVolumeNumbers hv h)
  | vToSeries => exact (Value.volumeToSeries_ne_error hv h).elim
  | vSplitVolume => exact (Value.splitVolume_ne_error hv h).elim
  | vTitle => exact (Value.volumeTitle_ne_error hv h).elim
  | vnShort => exact .inr ((transform_eq_error_iff (.inl rfl)).mp h)
  | vnFull => exact .inr ((transform_eq_error_iff (.inr rfl)).mp h)
  | toSeries => exact .inl (Value.strays_of_toSeries hv h)
  | legacyT =>
    have hterminal : v.isTerminal = false := by simpa [Accepts.admits, Rule.accepts] using ha
    exact .inl (Value.strays_of_legacyTitle hterminal hv h)
  | _ => cases h

theorem Call.strays_of_transform {call : Call} {ctx : Context} {v : Value} {e : NamingError}
    (ha : call.rule.accepts.admits v = true) (hv : v.Sound ctx.request)
    (h : call.transform ctx v = .error e) : ctx.request.Strays e := by
  rcases cause_of_transform ha hv.aligned h with hstray | ⟨hover, -⟩
  · exact hstray
  · exact absurd hover hv.bounded.not_overflows

theorem Call.error_of_apply {call : Call} {ctx : Context} {v : Value} {e : NamingError}
    (hv : v.Sound ctx.request) (h : call.apply ctx v = .error e) :
    e = .mismatch ctx.channel call.rule v.stage ∨ ctx.request.Strays e := by
  cases hadmits : call.rule.accepts.admits v with
  | true =>
    rw [apply_of_admits hadmits] at h
    exact .inr (strays_of_transform hadmits hv h)
  | false =>
    rw [apply_of_not_admits hadmits] at h
    cases h
    exact .inl rfl

/-- Every packaged part can be numbered, so only a request without spanned volumes has no seed. -/
theorem Request.error_of_seed {e : NamingError} (h : r.seed = .error e) :
    e = .request .noVolumes ∧ r.spannedVolumes = [] := by
  rw [seed] at h
  split at h
  · cases h
  dsimp only at h
  split at h
  · next hspan =>
    cases h
    exact ⟨rfl, hspan⟩
  next volume others hspan =>
  exfalso
  rcases Outcome.bind_eq_error.mp h with h | ⟨ps, -, h⟩
  · obtain ⟨i, hi, h⟩ := Outcome.exists_of_mapM_eq_error h
    obtain ⟨number, hnumber⟩ := exists_partNumber (List.mem_range.mp hi)
    rw [hnumber] at h
    cases h
  split at h
  · cases h
  rcases Outcome.bind_eq_error.mp h with h | ⟨ns, -, h⟩
  · obtain ⟨i, hi, h⟩ := Outcome.exists_of_mapM_eq_error h
    obtain ⟨number, hnumber⟩ := exists_internalNumber (hspan ▸ hi)
    rw [hnumber] at h
    cases h
  · cases h

theorem Request.Valid.spannedVolumes_ne_nil (hr : r.Valid) : r.spannedVolumes ≠ [] := by
  have hlen := List.length_pos_iff.mpr (valid_iff.mp hr).2.1
  obtain ⟨v, hv⟩ := hr.exists_homeVolume hlen
  exact List.ne_nil_of_mem (mem_spannedVolumes_of_homeVolume hv)

namespace Pipeline

/-- The errors that a pipeline itself makes: a rule that does not accept its value, an end before
a string, an end on an empty string. -/
inductive Fails : NamingError → Prop
  | mismatch (c : Channel) (rule : Rule) (stage : Stage) : Fails (.mismatch c rule stage)
  | unterminated (c : Channel) (stage : Stage) : Fails (.unterminated c stage)
  | emptyName (c : Channel) : Fails (.emptyName c)

theorem error_of_applyAll {ctx : Context} {calls : List Call} {v : Value} {e : NamingError}
    (hv : v.Sound ctx.request) (h : applyAll ctx calls v = .error e) :
    Fails e ∨ ctx.request.Strays e := by
  induction calls generalizing v with
  | nil => cases h
  | cons call calls ih =>
    rw [applyAll] at h
    split at h
    · next next hnext => exact ih ((Effect.of_apply hnext).sound hv) h
    · next e' herror =>
      cases h
      rcases Call.error_of_apply hv herror with rfl | hstray
      · exact .inl (.mismatch _ _ _)
      · exact .inr hstray

theorem fails_of_finish {c : Channel} {v : Value} {e : NamingError}
    (h : finish c v = .error e) : Fails e := by
  rw [finish.eq_def] at h
  split at h
  · split at h
    · cases h
      exact .emptyName c
    · cases h
  · cases h
    exact .unterminated c _

theorem error_of_start {p : Pipeline} {ctx : Context} {title : Option String} {e : NamingError}
    (h : p.start ctx title = .error e) :
    (p.seed = .request ∧ e = .request .noVolumes ∧ ctx.request.spannedVolumes = []) ∨
      (p.seed = .title ∧ title = none ∧ e = .request (.titleNotReady ctx.channel)) := by
  rw [start.eq_def] at h
  split at h
  · next hseed => exact .inl ⟨hseed, Request.error_of_seed h⟩
  · next hseed =>
    split at h
    · cases h
    · cases h
      exact .inr ⟨hseed, rfl, rfl⟩

/-- Where a run that fails has failed: at its start, in a call or at its end. -/
theorem cases_of_run_eq_error {p : Pipeline} {ctx : Context} {title : Option String}
    {e : NamingError} (h : p.run ctx title = .error e) :
    p.start ctx title = .error e ∨ ∃ first, p.start ctx title = .ok first ∧
      (applyAll ctx p.steps first = .error e ∨ ∃ last, finish ctx.channel last = .error e) := by
  rw [run] at h
  split at h
  · next first hstart =>
    refine .inr ⟨first, hstart, ?_⟩
    split at h
    · next last _ => exact .inr ⟨last, h⟩
    · next e' herror =>
      cases h
      exact .inl herror
  · next e' hstart =>
    cases h
    exact .inl hstart

/-- A run fails by an error of the pipeline or by one about the request, and by no other. -/
theorem error_of_run {p : Pipeline} {ctx : Context} {title : Option String} {e : NamingError}
    (h : p.run ctx title = .error e) : Fails e ∨ ∃ fault, e = .request fault := by
  rcases cases_of_run_eq_error h with hstart | ⟨first, hstart, herror | ⟨last, hfinish⟩⟩
  · rcases error_of_start hstart with ⟨-, he, -⟩ | ⟨-, -, he⟩
    · exact .inr ⟨_, he⟩
    · exact .inr ⟨_, he⟩
  · rcases error_of_applyAll (sound_of_start hstart) herror with hfails | hstray
    · exact .inl hfails
    · obtain ⟨i, hi⟩ := hstray.eq
      exact .inr ⟨_, hi⟩
  · exact .inl (fails_of_finish hfinish)

/-- On a valid request a run that can start fails only by an error of the pipeline. -/
theorem fails_of_run {p : Pipeline} {ctx : Context} {title : Option String} {e : NamingError}
    (hr : ctx.request.Valid) (hseed : p.seed = .request ∨ title.isSome)
    (h : p.run ctx title = .error e) : Fails e := by
  rcases cases_of_run_eq_error h with hstart | ⟨first, hstart, herror | ⟨last, hfinish⟩⟩
  · exfalso
    rcases error_of_start hstart with ⟨-, -, hspan⟩ | ⟨htitle, hnone, -⟩
    · exact hr.spannedVolumes_ne_nil hspan
    · rcases hseed with hrequest | hsome
      · rw [htitle] at hrequest
        cases hrequest
      · rw [hnone] at hsome
        cases hsome
  · rcases error_of_applyAll (sound_of_start hstart) herror with hfails | hstray
    · exact hfails
    · exact absurd hstray hr.not_strays
  · exact fails_of_finish hfinish

end Pipeline

end ReleaseNames
