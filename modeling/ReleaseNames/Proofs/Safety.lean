import ReleaseNames.Generator
import ReleaseNames.Proofs.Failure
import ReleaseNames.Proofs.Overflow
import ReleaseNames.Proofs.WellFormed

/-!
# Naming is safe

What can go wrong when a compiled program names a request. A generator rejects a
request exactly if the request fails the check. A valid request is named, unless a
pipeline fails by itself or an override reports a failure. And whatever the
request, no pipeline looks up an index that the request does not list, and none
takes a successor that does not fit a word, so that no run stops at an overflow.
-/

namespace ReleaseNames

variable {g : Generator} {r : Request}

theorem Request.check_eq_ok (hr : r.Valid) : r.check = .ok () :=
  hr

theorem Request.exists_of_not_valid (hr : ¬ r.Valid) : ∃ fault, r.check = .error fault := by
  cases h : r.check with
  | ok => exact absurd h hr
  | error fault => exact ⟨fault, rfl⟩

theorem Pipeline.Fails.not_request {e : NamingError} (h : Fails e) (fault : RequestError) :
    e ≠ .request fault := by
  cases h <;> simp

theorem Pipeline.Fails.not_dangling {e : NamingError} (h : Fails e) (i : Dangling) :
    e ≠ .dangling i := by
  cases h <;> simp

theorem Pipeline.Fails.not_overflow {e : NamingError} (h : Fails e) (sum : Overflow) :
    e ≠ .overflow sum := by
  cases h <;> simp

/-- No pipeline looks up an index that the request does not list. -/
theorem Pipeline.run_ne_dangling (p : Pipeline) (ctx : Context) (title : Option String)
    (i : Dangling) : p.run ctx title ≠ .error (.dangling i) := by
  intro h
  rcases Pipeline.error_of_run h with hfails | ⟨fault, hfault⟩
  · exact hfails.not_dangling i rfl
  · cases hfault

theorem Pipeline.run_ne_overflow (p : Pipeline) (ctx : Context) (title : Option String)
    (sum : Overflow) : p.run ctx title ≠ .error (.overflow sum) := by
  intro h
  rcases Pipeline.error_of_run h with hfails | ⟨fault, hfault⟩
  · exact hfails.not_overflow sum rfl
  · cases hfault

namespace Generator

def OverrideFails (o : Overrides) (e : NamingError) : Prop :=
  ∃ c message, (o.get? c).isSome ∧ e = .overrideFailed c message

variable {c : Channel} {title : Option String}

theorem name_of_override {f : Override} (h : g.overrides.get? c = some f) :
    g.name c r title =
      (f r.series r.volumes r.parts r.marker).mapError (NamingError.overrideFailed c) := by
  rw [name, Overrides.call?, h]
  dsimp only
  cases f r.series r.volumes r.parts r.marker <;> rfl

theorem name_of_no_override (h : g.overrides.get? c = none) :
    g.name c r title = (g.program.pipeline c).run ⟨r, c⟩ title := by
  rw [name, Overrides.call?, h]

theorem error_of_name {e : NamingError} (hr : r.Valid)
    (hseed : (g.program.pipeline c).seed = .request ∨ title.isSome)
    (h : g.name c r title = .error e) : Pipeline.Fails e ∨ OverrideFails g.overrides e := by
  cases hget : g.overrides.get? c with
  | none =>
    rw [name_of_no_override hget] at h
    exact .inl (Pipeline.fails_of_run hr hseed h)
  | some f =>
    rw [name_of_override hget] at h
    cases hf : f r.series r.volumes r.parts r.marker with
    | ok text =>
      rw [hf] at h
      cases h
    | error message =>
      rw [hf] at h
      cases h
      exact .inr ⟨c, message, by rw [hget]; rfl, rfl⟩

/-- On a valid request only a pipeline or an override can fail. -/
theorem error_of_generate {e : NamingError} (hr : r.Valid)
    (htitle : g.program.title.seed = .request) (h : g.generate r = .error e) :
    Pipeline.Fails e ∨ OverrideFails g.overrides e := by
  have hseed : (g.program.pipeline .title).seed = .request := htitle
  rw [generate, Request.check_eq_ok hr] at h
  rcases Outcome.bind_eq_error.mp h with h | ⟨title, -, h⟩
  · exact error_of_name hr (.inl hseed) h
  rcases Outcome.bind_eq_error.mp h with h | ⟨filename, -, h⟩
  · exact error_of_name hr (.inr rfl) h
  rcases Outcome.bind_eq_error.mp h with h | ⟨folder, -, h⟩
  · exact error_of_name hr (.inr rfl) h
  · cases h

/-- A generator rejects exactly the requests that fail the check. -/
theorem rejects_iff (htitle : g.program.title.seed = .request) :
    (∃ fault, g.generate r = .error (.request fault)) ↔ ¬ r.Valid := by
  constructor
  · rintro ⟨fault, h⟩ hr
    rcases error_of_generate hr htitle h with hfails | ⟨c, message, -, heq⟩
    · exact hfails.not_request fault rfl
    · cases heq
  · intro hr
    obtain ⟨fault, hfault⟩ := Request.exists_of_not_valid hr
    exact ⟨fault, by rw [generate, hfault]⟩

theorem fails_of_generate {p : Program} {e : NamingError} (hr : r.Valid)
    (htitle : p.title.seed = .request) (h : generate ⟨p, .empty⟩ r = .error e) :
    Pipeline.Fails e := by
  rcases error_of_generate hr htitle h with hfails | ⟨c, message, hsome, -⟩
  · exact hfails
  · cases c <;> cases hsome

end Generator

/-- What can be relied on when a program names requests. -/
structure Program.Safe (p : Program) : Prop where
  /-- A valid request is named, or a pipeline fails by itself. -/
  names : ∀ r : Request, r.Valid →
    (∃ names, Generator.generate ⟨p, .empty⟩ r = .ok names) ∨
      ∃ e, Generator.generate ⟨p, .empty⟩ r = .error e ∧ Pipeline.Fails e
  /-- Exactly the requests that fail the check are rejected, whatever the overrides. -/
  rejects : ∀ (r : Request) (o : Overrides),
    (∃ fault, Generator.generate ⟨p, o⟩ r = .error (.request fault)) ↔ ¬ r.Valid
  /-- No index leads out of a request, valid or not. -/
  indices : ∀ (c : Channel) (ctx : Context) (title : Option String) (i : Dangling),
    (p.pipeline c).run ctx title ≠ .error (.dangling i)
  /-- No sum overflows, on any request. -/
  sums : ∀ (c : Channel) (ctx : Context) (title : Option String) (call : Call) (v : Value),
    (p.pipeline c).Meets ctx title call v → ¬ call.Overflows v
  /-- No run stops at an overflow, on any request. -/
  completes : ∀ (c : Channel) (ctx : Context) (title : Option String) (sum : Overflow),
    (p.pipeline c).run ctx title ≠ .error (.overflow sum)

/-- Every program that an expression compiles to is safe. -/
theorem safe_of_compile {expression : Option String} {p : Program}
    (hcompile : compile expression = .ok p) : p.Safe := by
  have htitle := (Program.wellFormed_of_compile hcompile).title
  constructor
  · intro r hr
    cases h : Generator.generate ⟨p, .empty⟩ r with
    | ok names => exact .inl ⟨names, rfl⟩
    | error e => exact .inr ⟨e, rfl, Generator.fails_of_generate hr htitle h⟩
  · intro r o
    exact Generator.rejects_iff htitle
  · intro c ctx title i
    exact (p.pipeline c).run_ne_dangling ctx title i
  · intro c ctx title call v hmeets
    exact Pipeline.not_overflows_of_meets hmeets
  · intro c ctx title sum
    exact (p.pipeline c).run_ne_overflow ctx title sum

theorem safe_of_compile_numbers :
    ∃ p, compile (some "to_series>vn_merge>vn_short>s_title>to_string") = .ok p ∧ p.Safe := by
  have hsome : (compile (some "to_series>vn_merge>vn_short>s_title>to_string")).toOption =
      some ⟨⟨.request, [.ofRule .toSeries, .ofRule .vnMerge, .ofRule .vnShort, .ofRule .sTitle,
        .ofRule .toString]⟩, .default .filename, .default .folder⟩ := by
    decide +kernel
  have hcompile := Outcome.eq_ok_of_toOption hsome
  exact ⟨_, hcompile, safe_of_compile hcompile⟩

end ReleaseNames
