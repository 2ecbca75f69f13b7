import ReleaseNames.Proofs.Failure

/-!
# Reachable values

The values that some calls, applied in order, reach from a seed. A run can be cut
at every value on its way and continued from there, so what holds of every seed
and is kept by every call holds of all reachable values. A valid request has a
seed.
-/

namespace ReleaseNames

variable {ctx : Context} {v w : Value}

namespace Pipeline

theorem applyAll_cons {call : Call} (h : call.apply ctx v = .ok w) (calls : List Call) :
    applyAll ctx (call :: calls) v = applyAll ctx calls w := by
  rw [applyAll, h]

theorem applyAll_append (ctx : Context) (xs ys : List Call) (v : Value) :
    applyAll ctx (xs ++ ys) v = applyAll ctx xs v >>= applyAll ctx ys := by
  induction xs generalizing v with
  | nil => rfl
  | cons call xs ih =>
    rw [List.cons_append, applyAll, applyAll]
    cases call.apply ctx v with
    | ok next => exact ih next
    | error e => rfl

end Pipeline

/-- Some calls bring a run from the seed to the value. Only the title seed reads the title. -/
def Context.Reaches (ctx : Context) (seed : Seed) (v : Value) : Prop :=
  ∃ (title : Option String) (first : Value) (calls : List Call),
    Pipeline.start ⟨seed, []⟩ ctx title = .ok first ∧ Pipeline.applyAll ctx calls first = .ok v

namespace Context.Reaches

variable {seed : Seed}

theorem of_seed {first : Value} (h : ctx.request.seed = .ok first) : ctx.Reaches .request first :=
  ⟨none, first, [], h, rfl⟩

theorem applyAll {calls : List Call} (h : ctx.Reaches seed v)
    (hrun : Pipeline.applyAll ctx calls v = .ok w) : ctx.Reaches seed w := by
  obtain ⟨title, first, before, hstart, hbefore⟩ := h
  refine ⟨title, first, before ++ calls, hstart, ?_⟩
  rw [Pipeline.applyAll_append, hbefore]
  exact hrun

theorem induct {P : Value → Prop} (h : ctx.Reaches seed v)
    (hrequest : ∀ first, ctx.request.seed = .ok first → P first)
    (htitle : ∀ text, P (.text text))
    (hstep : ∀ {call : Call} {v w : Value}, call.apply ctx v = .ok w → P v → P w) : P v := by
  obtain ⟨title, first, calls, hstart, hrun⟩ := h
  refine Pipeline.applyAll_preserves hstep hrun ?_
  cases seed with
  | request => exact hrequest first hstart
  | title =>
    cases title with
    | none => cases hstart
    | some text =>
      cases hstart
      exact htitle text

theorem sound (h : ctx.Reaches seed v) : v.Sound ctx.request :=
  h.induct (fun _ => Request.sound_of_seed) (Value.sound_text _)
    fun hstep => (Effect.of_apply hstep).sound

theorem aligned (h : ctx.Reaches seed v) : v.Aligned ctx.request :=
  h.sound.aligned

theorem not_overflows {call : Call} (h : ctx.Reaches seed v) : ¬ call.Overflows v :=
  h.sound.bounded.not_overflows

end Context.Reaches

/-- A valid request packages something, so it has a seed. -/
theorem Request.Valid.exists_seed {r : Request} (hr : r.Valid) : ∃ first, r.seed = .ok first := by
  cases h : r.seed with
  | ok first => exact ⟨first, rfl⟩
  | error e => exact absurd (error_of_seed h).2 hr.spannedVolumes_ne_nil

end ReleaseNames
