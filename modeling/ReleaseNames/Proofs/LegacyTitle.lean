import ReleaseNames.Proofs.LegacyNames

/-!
# The legacy title at every place of a chain

The legacy title is made of the volumes and parts to which a value refers. Until a
value becomes a string these are the spanned volumes, in order of first occurrence,
and all packaged parts, whatever rules have been applied. So the title is the same
wherever a chain takes it, and the rules before it might as well be left out.
-/

namespace ReleaseNames

variable {r : Request}

/-- Dropping repetitions keeps a new member right after what stands before it. -/
theorem eraseDups_append_cons {before : List Nat} {v : Nat} (hnew : v ∉ before)
    (after : List Nat) :
    ∃ later, (before ++ v :: after).eraseDups = before.eraseDups ++ v :: later := by
  have hfirst : (v :: after).removeAll before = v :: after.removeAll before := by
    rw [List.removeAll, List.filter_cons_of_pos (by simpa using hnew), ← List.removeAll]
  rw [List.eraseDups_append, hfirst, List.eraseDups_cons]
  exact ⟨_, rfl⟩

namespace Request

/-- The homes of the packaged parts, each once, in order of first occurrence: before a home stand
exactly the homes of the parts that precede its first part. -/
structure ListsHomes (r : Request) (homes : List Nat) : Prop where
  nodup : homes.Nodup
  mem_iff : ∀ v, v ∈ homes ↔ ∃ p ∈ r.parts, r.volumeIndex? p.volume = some v
  order : ∀ (before : List Part) (p : Part) (after : List Part) (v : Nat),
    r.parts = before ++ p :: after → r.volumeIndex? p.volume = some v →
      (∀ q ∈ before, r.volumeIndex? q.volume ≠ some v) →
        ∃ earlier later, homes = earlier ++ v :: later ∧
          ∀ w, w ∈ earlier ↔ ∃ q ∈ before, r.volumeIndex? q.volume = some w

theorem listsHomes_spannedVolumes (r : Request) : r.ListsHomes r.spannedVolumes := by
  refine ⟨r.nodup_spannedVolumes, fun v => mem_spannedVolumes, ?_⟩
  intro before p after v hparts hp hbefore
  have hnew : v ∉ before.filterMap fun q => r.volumeIndex? q.volume := by
    simpa using hbefore
  obtain ⟨later, hlater⟩ := eraseDups_append_cons hnew
    (after.filterMap fun q => r.volumeIndex? q.volume)
  refine ⟨(before.filterMap fun q => r.volumeIndex? q.volume).eraseDups, later, ?_, ?_⟩
  · rw [← hlater, spannedVolumes, hparts, List.filterMap_append, List.filterMap_cons]
    simp only [hp]
  · intro w
    simp [List.mem_eraseDups]

end Request

/-- The legacy title of a valid request is that of the spanned volumes in order of first occurrence
and of all packaged parts, with no marker pending, wherever a chain takes it before the value is a
string. What stands before it in a pipeline does not matter. -/
theorem legacy_title_anywhere (hr : r.Valid) :
    r.ListsHomes r.spannedVolumes ∧ r.spannedVolumes.mapM r.volumeAt = .ok r.spanned ∧
    ∃ first, r.seed = .ok first ∧
      ∀ (c : Channel) (before : List Call) (v : Value),
        Pipeline.applyAll ⟨r, c⟩ before first = .ok v → v.isTerminal = false →
          ∀ call : Call, call.rule = .legacyT →
            call.apply ⟨r, c⟩ v =
              .ok (.string (Legacy.title r.series r.spanned r.parts r.marker) none) ∧
            call.apply ⟨r, c⟩ v = call.apply ⟨r, c⟩ first ∧
            ∀ (after : List Call) (title : Option String),
              Pipeline.run ⟨.request, before ++ call :: after⟩ ⟨r, c⟩ title =
                Pipeline.run ⟨.request, call :: after⟩ ⟨r, c⟩ title := by
  obtain ⟨first, hfirst, haligned, hstructured⟩ := hr.exists_structured_seed
  refine ⟨r.listsHomes_spannedVolumes, r.mapM_volumeAt_spannedVolumes, first, hfirst, ?_⟩
  intro c before v hbefore hv call hcall
  have hthere := Call.apply_legacyT (c := c) hcall hr
    (Pipeline.aligned_of_applyAll hbefore haligned) hv
  have hhere := Call.apply_legacyT (c := c) hcall hr haligned hstructured
  refine ⟨hthere, hthere.trans hhere.symm, fun after title => ?_⟩
  have hlate := Pipeline.applyAll_cons hthere after
  have hearly := Pipeline.applyAll_cons hhere after
  rw [Pipeline.run_of_seed hfirst, Pipeline.run_of_seed hfirst, Pipeline.applyAll_append, hbefore,
    Outcome.ok_bind, hlate, hearly]

theorem legacy_title_anywhere_reordered :
    let r : Request := ⟨⟨"S", none, none⟩, [⟨1, "A"⟩, ⟨2, "B"⟩],
      [⟨2, 1, "x"⟩, ⟨1, 3, "y"⟩, ⟨2, 2, "z"⟩], ⟨true, false⟩⟩
    let before : List Call := [.ofRule .pnPrependVn, .ofRule .vnFull, .ofRule .sTitle]
    let call : Call := .ofRule .legacyT
    r.Valid ∧ r.spannedVolumes = [1, 0] ∧ r.spanned = [⟨2, "B"⟩, ⟨1, "A"⟩] ∧
      (∃ first v, r.seed = .ok first ∧ Pipeline.applyAll ⟨r, .title⟩ before first = .ok v ∧
        v.isTerminal = false ∧
        call.apply ⟨r, .title⟩ v =
          .ok (.string "S: Volumes 2 & 1 [Parts 2.1 to 2.2 - Final]" none)) := by
  intro r before call
  have hr : r.Valid := by decide
  let first : Value := .series [1, 0] [0, 1, 2]
    ⟨.raw ⟨[.internal 1 2, .internal 0 1], false⟩, .raw [⟨0, "1"⟩, ⟨1, "3"⟩, ⟨2, "2"⟩],
      .raw ⟨true, false⟩⟩
  let v : Value := .seriesString "S" [1, 0] [0, 1, 2]
    ⟨.rendered "Volumes 2 & 1", .raw [⟨0, "2.1"⟩, ⟨1, "1.3"⟩, ⟨2, "2.2"⟩], .raw ⟨true, false⟩⟩
  have hseed : r.seed = .ok first := Outcome.eq_ok_of_toOption (by decide +kernel)
  have hbefore : Pipeline.applyAll ⟨r, .title⟩ before first = .ok v :=
    Outcome.eq_ok_of_toOption (by decide +kernel)
  obtain ⟨-, -, seed, hfirst, hanywhere⟩ := legacy_title_anywhere hr
  obtain rfl : first = seed := Except.ok.inj (hseed.symm.trans hfirst)
  obtain ⟨happly, -, -⟩ := hanywhere .title before v hbefore rfl call rfl
  have htitle : Legacy.title r.series r.spanned r.parts r.marker =
      "S: Volumes 2 & 1 [Parts 2.1 to 2.2 - Final]" := by decide +kernel
  rw [htitle] at happly
  exact ⟨hr, by decide +kernel, by decide +kernel, first, v, hseed, hbefore, rfl, happly⟩

end ReleaseNames
