import ReleaseNames.Proofs.Acceptance
import ReleaseNames.Proofs.LegacyNames
import ReleaseNames.Proofs.Writing

/-!
# Chains that serve every seed

A request starts a pipeline with a part, a volume or a series. Some chains can be
used for all three: first rules that make no string, then one that makes a string
of anything, then rules that accept strings. On a valid request such a chain ends
in a name, unless the name is empty. The stages on the way may depend on how many
parts and volumes there are and even on their titles, but no rule of the chain can
be a mismatch, and the last value is a string.
-/

namespace ReleaseNames

variable {ctx : Context} {v : Value}

namespace Rule

/-- The rules that only accept strings. -/
def texts : List Rule := [.strRmSpace, .strReplaceSpace, .strFilesafe]

/-- The rules that make a string of every value that is not one. -/
def closing : List Rule := [.toString, .legacyT, .legacyF]

/-- The rules that accept strings. -/
def polishing : List Rule := [.fcShort, .fcFull, .toString] ++ texts

variable {rule : Rule}

theorem accepts_eq_terminal_iff : rule.accepts = .terminal ↔ rule ∈ texts := by
  cases rule <;> decide

theorem accepts_ne_structured_iff : rule.accepts ≠ .structured ↔ rule ∈ polishing := by
  cases rule <;> decide

theorem not_mem_texts_of_closing (h : rule ∈ closing) : rule ∉ texts := by
  revert h
  cases rule <;> decide

theorem admits_of_not_mem_texts (h : rule ∉ texts) (hv : v.isTerminal = false) :
    rule.accepts.admits v = true := by
  rw [← accepts_eq_terminal_iff] at h
  cases haccepts : rule.accepts with
  | structured => simp [Accepts.admits, hv]
  | terminal => exact absurd haccepts h
  | any => rfl

theorem admits_of_mem_polishing (h : rule ∈ polishing) (hv : v.isTerminal = true) :
    rule.accepts.admits v = true := by
  rw [← accepts_ne_structured_iff] at h
  cases haccepts : rule.accepts with
  | structured => exact absurd haccepts h
  | terminal => exact hv
  | any => rfl

end Rule

/-- A chain of rules that make no string and accept other values, one that makes a string of every
value, and rules that accept strings. -/
def ServesEverySeed (calls : List Call) : Prop :=
  ∃ before last after, calls = before ++ last :: after ∧
    (∀ call ∈ before, call.rule ∉ Call.ending ∧ call.rule ∉ Rule.texts) ∧
      last.rule ∈ Rule.closing ∧ ∀ call ∈ after, call.rule ∈ Rule.polishing

namespace Call

variable {call : Call} {w : Value}

/-- A rule that makes a string of every value makes one, if it succeeds. -/
theorem isTerminal_of_closing (hrule : call.rule ∈ Rule.closing) (hv : v.isTerminal = false)
    (h : call.apply ctx v = .ok w) : w.isTerminal = true := by
  have htransform := (apply_eq_ok.mp h).2
  obtain ⟨rule, args⟩ := call
  have hrules : rule = .toString ∨ rule = .legacyT ∨ rule = .legacyF := by
    simpa [Rule.closing] using hrule
  rw [Value.isTerminal_iff]
  rcases hrules with rfl | rfl | rfl
  · obtain ⟨head, hhead⟩ := v.exists_toText_eq_collapse hv (int ⟨.toString, args⟩ 0 != 0)
    obtain rfl : v.toText (int ⟨.toString, args⟩ 0 != 0) = w := Except.ok.inj htransform
    rw [hhead, Value.stage_collapse]
  · change v.legacyTitle ctx = .ok w at htransform
    rw [Value.legacyTitle, hv] at htransform
    obtain ⟨_, -, htransform⟩ := Outcome.bind_eq_ok.mp htransform
    obtain ⟨_, -, htransform⟩ := Outcome.bind_eq_ok.mp htransform
    obtain ⟨_, -, htransform⟩ := Outcome.bind_eq_ok.mp htransform
    cases htransform
    rfl
  · cases htransform
    rfl

theorem isTerminal_of_apply (hv : v.isTerminal = true) (h : call.apply ctx v = .ok w) :
    w.isTerminal = true := by
  rw [Value.isTerminal_iff] at hv ⊢
  apply Stage.eq_string_of_rank_le
  rw [← hv]
  exact (Effect.of_apply h).rank_le

/-- One step before the string: a rule that makes no string and accepts other values takes every
such value to another. The stage may change, and a title may decide it, but the next step only asks
that there is no string yet and that the value is one that a run can make. -/
theorem exists_apply_structural (hrule : call.rule ∉ ending ∧ call.rule ∉ Rule.texts)
    (hr : ctx.request.Valid) (hv : v.Sound ctx.request ∧ v.isTerminal = false) :
    ∃ w, call.apply ctx v = .ok w ∧ w.Sound ctx.request ∧ w.isTerminal = false := by
  obtain ⟨hending, htexts⟩ := hrule
  obtain ⟨hsound, hterminal⟩ := hv
  obtain ⟨w, hw⟩ := exists_apply_of_admits hr hsound
    (Rule.admits_of_not_mem_texts htexts hterminal)
  have hkept : w.isTerminal = v.isTerminal :=
    isTerminal_of_transform hending (apply_eq_ok.mp hw).2
  exact ⟨w, hw, (Effect.of_apply hw).sound hsound, hkept.trans hterminal⟩

/-- One step after it: a rule that accepts strings takes every string to a string. -/
theorem exists_apply_polishing (hrule : call.rule ∈ Rule.polishing) (hr : ctx.request.Valid)
    (hv : v.isTerminal = true) : ∃ w, call.apply ctx v = .ok w ∧ w.isTerminal = true := by
  have hsound : v.Sound ctx.request := by
    cases v with
    | string s m => exact ⟨trivial, fun n vns hn => nomatch hn⟩
    | _ => cases hv
  obtain ⟨w, hw⟩ := exists_apply_of_admits hr hsound (Rule.admits_of_mem_polishing hrule hv)
  exact ⟨w, hw, isTerminal_of_apply hv hw⟩

end Call

namespace Pipeline

/-- Calls that each take every value with a property to another one do so one after the other. -/
theorem exists_applyAll {P : Value → Prop} {calls : List Call}
    (hstep : ∀ call ∈ calls, ∀ v, P v → ∃ w, call.apply ctx v = .ok w ∧ P w) (hv : P v) :
    ∃ w, applyAll ctx calls v = .ok w ∧ P w := by
  induction calls generalizing v with
  | nil => exact ⟨v, rfl, hv⟩
  | cons call calls ih =>
    obtain ⟨hcall, hcalls⟩ := List.forall_mem_cons.mp hstep
    obtain ⟨u, hu, hproperty⟩ := hcall v hv
    obtain ⟨w, hw, hlast⟩ := ih hcalls hproperty
    exact ⟨w, by rw [applyAll, hu]; exact hw, hlast⟩

theorem finish_of_isTerminal (c : Channel) (hv : v.isTerminal = true) :
    (∃ name, finish c v = .ok name) ∨ finish c v = .error (.emptyName c) := by
  cases v with
  | string text m =>
    by_cases htext : text = ""
    · exact .inr (if_pos htext)
    · exact .inl ⟨text, if_neg htext⟩
  | _ => cases hv

end Pipeline

theorem ServesEverySeed.exists_applyAll {calls : List Call} (h : ServesEverySeed calls)
    (hr : ctx.request.Valid) (hv : v.Sound ctx.request) (hterminal : v.isTerminal = false) :
    ∃ w, Pipeline.applyAll ctx calls v = .ok w ∧ w.isTerminal = true := by
  obtain ⟨before, last, after, rfl, hbefore, hlast, hafter⟩ := h
  obtain ⟨u, hu, hsound, hstructured⟩ :=
    Pipeline.exists_applyAll
      (fun call hcall _ => Call.exists_apply_structural (hbefore call hcall) hr)
      ⟨hv, hterminal⟩
  obtain ⟨w, hw⟩ := Call.exists_apply_of_admits hr hsound
    (Rule.admits_of_not_mem_texts (Rule.not_mem_texts_of_closing hlast) hstructured)
  obtain ⟨x, hx, hstring⟩ :=
    Pipeline.exists_applyAll
      (fun call hcall _ => Call.exists_apply_polishing (hafter call hcall) hr)
      (Call.isTerminal_of_closing hlast hstructured hw)
  refine ⟨x, ?_, hstring⟩
  rw [Pipeline.applyAll_append, hu, Outcome.ok_bind, Pipeline.applyAll, hw]
  exact hx

/-- A chain that serves every seed names every valid request, unless the name is empty. -/
theorem names_every_seed (calls : List Call) (h : ServesEverySeed calls) (r : Request)
    (hr : r.Valid) (c : Channel) (title : Option String) :
    (∃ name, Pipeline.run ⟨.request, calls⟩ ⟨r, c⟩ title = .ok name) ∨
      Pipeline.run ⟨.request, calls⟩ ⟨r, c⟩ title = .error (.emptyName c) := by
  obtain ⟨first, hfirst, -, hterminal⟩ := hr.exists_structured_seed
  have hcalls : ∃ w, Pipeline.applyAll ⟨r, c⟩ calls first = .ok w ∧ w.isTerminal = true :=
    h.exists_applyAll hr (Request.sound_of_seed hfirst) hterminal
  obtain ⟨w, hw, hstring⟩ := hcalls
  have hrun : Pipeline.run ⟨.request, calls⟩ ⟨r, c⟩ title = Pipeline.finish c w := by
    simp only [Pipeline.run, Pipeline.start, hfirst, hw]
  rw [hrun]
  exact Pipeline.finish_of_isTerminal c hstring

/-- One chain, with rules for parts, volumes and series, on a part, on a volume whose title says no
more than the series, and on a series. -/
theorem names_every_seed_thrice :
    let calls : List Call := [.ofRule .pSplitPart, .ofRule .vSplitVolume, .ofRule .pnFull,
      .ofRule .vnShort, .ofRule .sTitle, ⟨.toString, [.int 1]⟩, .ofRule .fcFull,
      ⟨.strFilesafe, [.str "-", .str ""]⟩]
    let one : Request := ⟨⟨"S", none, none⟩, [⟨1, "S: Volume 4"⟩], [⟨1, 3, "P"⟩], ⟨true, false⟩⟩
    let several : Request := ⟨⟨"S", none, none⟩, [⟨1, "S"⟩], [⟨1, 3, "P"⟩, ⟨1, 4, "Q"⟩],
      ⟨false, true⟩⟩
    let volumes : Request := ⟨⟨"S", none, none⟩, [⟨1, "S 1"⟩, ⟨2, "S 2"⟩],
      [⟨1, 3, ""⟩, ⟨2, 1, ""⟩], ⟨false, false⟩⟩
    ServesEverySeed calls ∧ one.Valid ∧ several.Valid ∧ volumes.Valid ∧
      (∀ r ∈ [one, several, volumes],
        (∃ name, Pipeline.run ⟨.request, calls⟩ ⟨r, .title⟩ none = .ok name) ∨
          Pipeline.run ⟨.request, calls⟩ ⟨r, .title⟩ none = .error (.emptyName .title)) := by
  intro calls one several volumes
  have hserves : ServesEverySeed calls :=
    ⟨calls.take 5, ⟨.toString, [.int 1]⟩, calls.drop 6, rfl, by decide, by decide, by decide⟩
  have hone : one.Valid := by decide
  have hseveral : several.Valid := by decide
  have hvolumes : volumes.Valid := by decide
  refine ⟨hserves, hone, hseveral, hvolumes, ?_⟩
  intro r hr
  have hvalid : r.Valid := by
    simp only [List.mem_cons, List.not_mem_nil, or_false] at hr
    rcases hr with rfl | rfl | rfl <;> assumption
  exact names_every_seed calls hserves r hvalid .title none

end ReleaseNames
