import ReleaseNames.Proofs.Reach

/-!
# Accepted values move forward

The stages are ordered from a part to a string. On a value that a run over a valid
request can reach, a call fails exactly if its rule does not accept the value, and
otherwise it gives a value at the same stage or at a later one. A run therefore
fails exactly at its first call that does not accept the value before it, and a
string stays a string.
-/

namespace ReleaseNames

variable {ctx : Context} {v w : Value}

theorem Stage.rank_le_string (s : Stage) : s.rank ≤ Stage.string.rank := by
  cases s <;> decide

theorem Stage.eq_string_of_rank_le {s : Stage} (h : Stage.string.rank ≤ s.rank) : s = .string := by
  cases s <;> first | rfl | exact absurd h (by decide)

theorem Value.stage_collapse (head : Option String) (v : Value) :
    (v.collapse head).stage = .string := by
  cases v <;> rfl

/-- One step: no effect moves a value to an earlier stage. -/
theorem Effect.rank_le {r : Request} (h : Effect r v w) : v.stage.rank ≤ w.stage.rank := by
  cases h with
  | keep => exact Nat.le_refl _
  | edit => simp
  | partToVolume => exact Nat.zero_le _
  | partToSeries => exact Nat.zero_le _
  | volumeToSeries => exact Nat.le_succ Stage.volume.rank
  | name => exact Nat.le_succ Stage.series.rank
  | rename => exact Nat.le_refl _
  | collapse _ head =>
    rw [Value.stage_collapse]
    exact v.stage.rank_le_string
  | legacy => exact v.stage.rank_le_string
  | retext => exact Nat.le_refl _
  | mark => exact Nat.le_refl _

theorem Pipeline.rank_le_of_applyAll {calls : List Call} (h : applyAll ctx calls v = .ok w) :
    v.stage.rank ≤ w.stage.rank :=
  applyAll_preserves (P := fun u => v.stage.rank ≤ u.stage.rank)
    (fun hstep hv => Nat.le_trans hv (Effect.of_apply hstep).rank_le) h (Nat.le_refl _)

namespace Call

variable {call : Call}

/-- On a valid request every part has a home, so nothing that a rule accepts can make it fail. -/
theorem exists_apply_of_admits (hr : ctx.request.Valid) (hv : v.Sound ctx.request)
    (h : call.rule.accepts.admits v = true) : ∃ w, call.apply ctx v = .ok w := by
  cases hw : call.transform ctx v with
  | ok w => exact ⟨w, apply_eq_ok.mpr ⟨h, hw⟩⟩
  | error e => exact absurd (strays_of_transform h hv hw) hr.not_strays

theorem apply_eq_mismatch_iff (hr : ctx.request.Valid) (hv : v.Sound ctx.request) :
    call.apply ctx v = .error (.mismatch ctx.channel call.rule v.stage) ↔
      call.rule.accepts.admits v = false := by
  constructor
  · intro h
    by_contra hadmits
    obtain ⟨w, hw⟩ := exists_apply_of_admits hr hv (eq_true_of_ne_false hadmits)
    rw [hw] at h
    cases h
  · exact apply_of_not_admits

end Call

namespace Pipeline

/-- The run comes to a call whose rule does not accept the value that the calls before it have
made, and the error says so. -/
def Rejects (ctx : Context) (calls : List Call) (v : Value) (e : NamingError) : Prop :=
  ∃ before call after u, calls = before ++ call :: after ∧ applyAll ctx before v = .ok u ∧
    call.rule.accepts.admits u = false ∧ e = .mismatch ctx.channel call.rule u.stage

theorem rejects_head {call : Call} {calls : List Call}
    (h : call.rule.accepts.admits v = false) :
    Rejects ctx (call :: calls) v (.mismatch ctx.channel call.rule v.stage) :=
  ⟨[], call, calls, v, rfl, rfl, h, rfl⟩

theorem Rejects.cons {call : Call} {calls : List Call} {e : NamingError}
    (hstep : call.apply ctx v = .ok w) (h : Rejects ctx calls w e) :
    Rejects ctx (call :: calls) v e := by
  obtain ⟨before, failing, after, u, rfl, hbefore, hrest⟩ := h
  refine ⟨call :: before, failing, after, u, rfl, ?_, hrest⟩
  rw [applyAll, hstep]
  exact hbefore

theorem rejects_of_applyAll {calls : List Call} {e : NamingError} (hr : ctx.request.Valid)
    (hv : v.Sound ctx.request) (h : applyAll ctx calls v = .error e) :
    Rejects ctx calls v e := by
  induction calls generalizing v with
  | nil => cases h
  | cons call calls ih =>
    cases hadmits : call.rule.accepts.admits v with
    | false =>
      rw [applyAll, Call.apply_of_not_admits hadmits] at h
      cases h
      exact rejects_head hadmits
    | true =>
      -- Soundness is what carries the induction: without it an accepted call could fail too.
      obtain ⟨w, hw⟩ := Call.exists_apply_of_admits hr hv hadmits
      rw [applyAll, hw] at h
      exact (ih ((Effect.of_apply hw).sound hv) h).cons hw

theorem applyAll_of_rejects {calls : List Call} {e : NamingError} (h : Rejects ctx calls v e) :
    applyAll ctx calls v = .error e := by
  obtain ⟨before, call, after, u, rfl, hbefore, hadmits, rfl⟩ := h
  rw [applyAll_append, hbefore, Outcome.ok_bind, applyAll, Call.apply_of_not_admits hadmits]

end Pipeline

/-- What the table of rules says about a value decides what calls and runs do to it. -/
structure Value.Gated (ctx : Context) (v : Value) : Prop where
  /-- A call is a mismatch, of its rule with this stage, exactly if its rule does not accept the
  value. -/
  mismatch_iff : ∀ call : Call,
    call.apply ctx v = .error (.mismatch ctx.channel call.rule v.stage) ↔
      call.rule.accepts.admits v = false
  /-- Every other call succeeds, and its value is not at an earlier stage. -/
  moves : ∀ call : Call, call.rule.accepts.admits v = true →
    ∃ w, call.apply ctx v = .ok w ∧ v.stage.rank ≤ w.stage.rank
  /-- A string stays a string. -/
  absorbing : v.stage = .string → ∀ (calls : List Call) (w : Value),
    Pipeline.applyAll ctx calls v = .ok w → w.stage = .string
  /-- A run fails exactly at the first call whose rule does not accept the value before it. -/
  fails_iff : ∀ (calls : List Call) (e : NamingError),
    Pipeline.applyAll ctx calls v = .error e ↔ Pipeline.Rejects ctx calls v e
  /-- A rule on strings fails on everything else. -/
  texts : ∀ call : Call, call.rule ∈ [.strRmSpace, .strReplaceSpace, .strFilesafe] →
    v.stage ≠ .string → call.apply ctx v = .error (.mismatch ctx.channel call.rule v.stage)

theorem Rule.not_admits_of_texts {rule : Rule}
    (h : rule ∈ [Rule.strRmSpace, .strReplaceSpace, .strFilesafe]) (hv : v.stage ≠ .string) :
    rule.accepts.admits v = false := by
  have hterminal : v.isTerminal = false :=
    Bool.eq_false_iff.mpr fun hstring => hv (Value.isTerminal_iff.mp hstring)
  have haccepts : rule.accepts = .terminal := by
    revert h
    cases rule <;> decide
  rw [haccepts, Accepts.admits, hterminal]

/-- Every value that a run over a valid request reaches, from either seed, is gated. -/
theorem gated_of_reaches {seed : Seed} (hr : ctx.request.Valid) (h : ctx.Reaches seed v) :
    v.Gated ctx := by
  have hv := h.sound
  constructor
  · intro call
    exact Call.apply_eq_mismatch_iff hr hv
  · intro call hadmits
    obtain ⟨w, hw⟩ := Call.exists_apply_of_admits hr hv hadmits
    exact ⟨w, hw, (Effect.of_apply hw).rank_le⟩
  · intro hstring calls w hrun
    apply Stage.eq_string_of_rank_le
    rw [← hstring]
    exact Pipeline.rank_le_of_applyAll hrun
  · intro calls e
    exact ⟨Pipeline.rejects_of_applyAll hr hv, Pipeline.applyAll_of_rejects⟩
  · intro call hrule hstage
    exact Call.apply_of_not_admits (Rule.not_admits_of_texts hrule hstage)

theorem gated_of_reaches_named :
    let ctx : Context :=
      ⟨⟨⟨"S", none, none⟩, [⟨1, "S 1"⟩], [⟨1, 3, "P"⟩], ⟨true, false⟩⟩, .title⟩
    let v : Value := .seriesString "S" [0] [0]
      ⟨.raw ⟨[.internal 0 1], false⟩, .raw [⟨0, "3"⟩], .raw ⟨true, false⟩⟩
    ctx.request.Valid ∧ ctx.Reaches .request v ∧ v.Gated ctx := by
  intro ctx v
  have hvalid : ctx.request.Valid := by decide
  have hrun : Pipeline.applyAll ctx [.ofRule .pToSeries, .ofRule .sTitle]
      (.part 0 (.ofMarker ⟨true, false⟩)) = .ok v :=
    Outcome.eq_ok_of_toOption (by decide +kernel)
  have hreaches : ctx.Reaches .request v := (Context.Reaches.of_seed rfl).applyAll hrun
  exact ⟨hvalid, hreaches, gated_of_reaches hvalid hreaches⟩

end ReleaseNames
