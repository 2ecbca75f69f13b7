import ReleaseNames.Proofs.Acceptance
import ReleaseNames.Proofs.Writing

/-!
# Rendered notes are kept

A note that has been rendered stays as it is for as long as the value is no
string, and the step that writes the value as a string writes it once, in its
place. The moves between stages put numbers into the notes without looking at what
is there; they lose nothing, since a part that a run reaches has no numbers yet
and a volume has no volume number.

The two legacy rules make a string of their own, which is the same whatever the
notes are. What they write is not described here.
-/

namespace ReleaseNames

variable {r : Request} {ctx : Context} {v w : Value} {n m : Notes}

/-- Every note rendered in the first notes is rendered to the same text in the second. -/
structure Notes.Kept (n m : Notes) : Prop where
  volumeNumbers : ∀ t, n.volumeNumbers = .rendered t → m.volumeNumbers = .rendered t
  partNumbers : ∀ t, n.partNumbers = .rendered t → m.partNumbers = .rendered t
  marker : ∀ t, n.marker = .rendered t → m.marker = .rendered t

/-- The numbers that a move to a later stage would put into the notes are not there yet. -/
def Value.Unnumbered : Value → Prop
  | .part _ notes => notes.volumeNumbers = .absent ∧ notes.partNumbers = .absent
  | .volume _ _ notes => notes.volumeNumbers = .absent
  | _ => True

theorem Value.Aligned.unnumbered (h : v.Aligned r) : v.Unnumbered := by
  cases v with
  | part i n => exact h.2.2
  | volume v parts n => exact h.2.2.1
  | _ => trivial

theorem Slot.Edit.eq_rendered {α : Type} {allowed : α → α → Prop} {s t : Slot α} {text : String}
    (h : s.Edit allowed t) (hs : s = .rendered text) : t = .rendered text := by
  subst hs
  cases h
  rfl

namespace Notes

theorem Kept.refl (n : Notes) : n.Kept n :=
  ⟨fun _ h => h, fun _ h => h, fun _ h => h⟩

theorem Kept.trans {k : Notes} (h : n.Kept m) (h' : m.Kept k) : n.Kept k where
  volumeNumbers t ht := h'.volumeNumbers t (h.volumeNumbers t ht)
  partNumbers t ht := h'.partNumbers t (h.partNumbers t ht)
  marker t ht := h'.marker t (h.marker t ht)

theorem Edit.kept (h : n.Edit r m) : n.Kept m where
  volumeNumbers _ := h.volumeNumbers.eq_rendered
  partNumbers _ := h.partNumbers.eq_rendered
  marker _ := h.marker.eq_rendered

theorem kept_withPartNumbers (h : n.partNumbers = .absent) (ps : List PartNumber) :
    n.Kept { n with partNumbers := .raw ps } where
  volumeNumbers _ ht := ht
  partNumbers _ ht := by rw [h] at ht; cases ht
  marker _ ht := ht

theorem kept_withVolumeNumbers (h : n.volumeNumbers = .absent) (vns : VolumeNumbers) :
    n.Kept { n with volumeNumbers := .raw vns } where
  volumeNumbers _ ht := by rw [h] at ht; cases ht
  partNumbers _ ht := ht
  marker _ ht := ht

end Notes

/-- One step: whatever a rule does to an unnumbered value, its rendered notes are kept. -/
theorem Effect.kept (h : Effect r v w) (hv : v.Unnumbered) (hn : v.notes? = some n)
    (hm : w.notes? = some m) : n.Kept m := by
  cases h with
  | keep =>
    cases hn.symm.trans hm
    exact .refl n
  | edit hold hedit =>
    cases hold.symm.trans hn
    cases (Value.notes?_mapNotes hold).symm.trans hm
    exact hedit.kept
  | partToVolume =>
    cases hn
    cases hm
    exact Notes.kept_withPartNumbers hv.2 _
  | partToSeries =>
    cases hn
    cases hm
    apply (Notes.kept_withPartNumbers hv.2 _).trans
    apply Notes.kept_withVolumeNumbers
    exact hv.1
  | volumeToSeries =>
    cases hn
    cases hm
    exact Notes.kept_withVolumeNumbers hv _
  | name =>
    cases hn
    cases hm
    exact .refl n
  | rename =>
    cases hn
    cases hm
    exact .refl n
  | collapse hterminal head =>
    rw [Value.notes?_collapse hterminal head] at hm
    cases hm
  | legacy => cases hm
  | retext => cases hm
  | mark => cases hm

theorem Value.notes?_eq_none_iff : v.notes? = none ↔ v.stage = .string := by
  cases v <;> simp [notes?, stage]

/-- A value with notes comes from one with notes, since strings stay strings. -/
theorem Effect.exists_notes? (h : Effect r v w) (hm : w.notes? = some m) :
    ∃ n, v.notes? = some n := by
  cases hn : v.notes? with
  | some n => exact ⟨n, rfl⟩
  | none =>
    have hrank := h.rank_le
    rw [Value.notes?_eq_none_iff.mp hn] at hrank
    rw [Value.notes?_eq_none_iff.mpr (Stage.eq_string_of_rank_le hrank)] at hm
    cases hm

theorem Pipeline.kept_of_applyAll {calls : List Call} (h : applyAll ctx calls v = .ok w)
    (hv : v.Aligned ctx.request) (hn : v.notes? = some n) (hm : w.notes? = some m) :
    n.Kept m := by
  -- Alignment goes along, since it is what leaves every value on the way unnumbered.
  refine (applyAll_preserves (P := fun u => u.Aligned ctx.request ∧ ∀ k, u.notes? = some k →
    n.Kept k) ?_ h ⟨hv, ?_⟩).2 m hm
  · rintro call u u' hstep ⟨hu, hkept⟩
    have heffect := Effect.of_apply hstep
    refine ⟨heffect.aligned hu, fun k' hk' => ?_⟩
    obtain ⟨k, hk⟩ := heffect.exists_notes? hk'
    exact (hkept k hk).trans (heffect.kept hu.unnumbered hk hk')
  · intro k hk
    cases hn.symm.trans hk
    exact .refl n

/-- What can be relied on of rendered notes in runs over a request. -/
structure Context.KeepsRendered (ctx : Context) : Prop where
  /-- There is a value to start from. -/
  starts : ∃ first, ctx.request.seed = .ok first
  /-- The numbers that a move between stages puts into the notes are not there before. -/
  unnumbered : ∀ v : Value, ctx.Reaches .request v → v.Unnumbered
  /-- What is rendered at some step is the same after all later steps, up to a string. -/
  kept : ∀ (calls : List Call) (v w : Value) (n m : Notes), ctx.Reaches .request v →
    Pipeline.applyAll ctx calls v = .ok w → v.notes? = some n → w.notes? = some m → n.Kept m
  /-- A value is written with its head and then its rendered notes in order. -/
  written : ∀ (call : Call) (v : Value) (n : Notes) (head : String), v.notes? = some n →
    call.Writes ctx.request v head →
    call.apply ctx v = .ok (.string (spaced (head :: n.texts)) n.marker.raw?)
  /-- No other step makes a string of a value with notes, except for the legacy rules. -/
  ends : ∀ (call : Call) (v w : Value) (n : Notes), v.notes? = some n →
    call.apply ctx v = .ok w → w.stage = .string →
    call.rule = .legacyT ∨ call.rule = .legacyF ∨ ∃ head, call.Writes ctx.request v head ∧
      w = .string (spaced (head :: n.texts)) n.marker.raw?
  /-- The legacy rules make the same string whatever the notes are. -/
  discarded : ∀ (call : Call) (f : Notes → Notes) (v : Value),
    call.rule = .legacyT ∨ call.rule = .legacyF →
    call.apply ctx (v.mapNotes f) = call.apply ctx v

theorem keeps_rendered_of_valid (hr : ctx.request.Valid) : ctx.KeepsRendered := by
  constructor
  · exact hr.exists_seed
  · intro v hreaches
    exact hreaches.aligned.unnumbered
  · intro calls v w n m hreaches hrun
    exact Pipeline.kept_of_applyAll hrun hreaches.aligned
  · intro call v n head hn hwrites
    exact Call.apply_of_writes hwrites hn
  · intro call v w n hn h hw
    rcases Call.exists_writes_of_ends hn h hw with hlegacy | hlegacy | ⟨head, hwrites⟩
    · exact .inl hlegacy
    · exact .inr (.inl hlegacy)
    · have happly := (Call.apply_of_writes hwrites hn).symm.trans h
      exact .inr (.inr ⟨head, hwrites, (Except.ok.inj happly).symm⟩)
  · intro call f v hlegacy
    exact Call.apply_mapNotes_of_legacy hlegacy f v

theorem keeps_rendered_of_valid_marker :
    let ctx : Context :=
      ⟨⟨⟨"S", none, none⟩, [⟨1, "S 1"⟩], [⟨1, 3, "P"⟩, ⟨1, 4, "Q"⟩], ⟨true, false⟩⟩, .title⟩
    let n : Notes := ⟨.absent, .rendered "3-4", .rendered "[F]"⟩
    let m : Notes := ⟨.raw ⟨[.internal 0 1], false⟩, .rendered "3-4", .rendered "[F]"⟩
    ctx.request.Valid ∧ ctx.KeepsRendered ∧ ctx.Reaches .request (.volume 0 [0, 1] n) ∧
      n.Kept m := by
  intro ctx n m
  have hvalid : ctx.request.Valid := by decide
  have hkeeps : ctx.KeepsRendered := keeps_rendered_of_valid hvalid
  have hseed : ctx.request.seed = .ok (.volume 0 [0, 1]
      ⟨.absent, .raw [⟨0, "3"⟩, ⟨1, "4"⟩], .raw ⟨true, false⟩⟩) :=
    Outcome.eq_ok_of_toOption (by decide +kernel)
  have hrun : Pipeline.applyAll ctx [.ofRule .fcShort, .ofRule .pnShort] (.volume 0 [0, 1]
      ⟨.absent, .raw [⟨0, "3"⟩, ⟨1, "4"⟩], .raw ⟨true, false⟩⟩) = .ok (.volume 0 [0, 1] n) :=
    Outcome.eq_ok_of_toOption (by decide +kernel)
  have hlater : Pipeline.applyAll ctx [.ofRule .vToSeries] (.volume 0 [0, 1] n) =
      .ok (.series [0] [0, 1] m) :=
    Outcome.eq_ok_of_toOption (by decide +kernel)
  have hreaches := (Context.Reaches.of_seed hseed).applyAll hrun
  exact ⟨hvalid, hkeeps, hreaches, hkeeps.kept _ _ _ _ _ hreaches hlater rfl rfl⟩

end ReleaseNames
