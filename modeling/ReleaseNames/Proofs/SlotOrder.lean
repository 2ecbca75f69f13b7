import ReleaseNames.Proofs.EverySeed

/-!
# Rules on different slots commute

Many rules work on one side of a value alone: on its marker, its part numbers, its
volume numbers or the name of its series. On a value that is no string such a rule
neither reads nor writes the other sides, so two of them on different sides can
change places. Four chains, one for each side, therefore have the same outcome in
whatever way they are interleaved: the same value, or the overflow of a rule that
renders volume numbers.

Rules that compare two sides are not among these: prefixing part numbers, and
dropping the volume numbers that part numbers carry. On strings nothing is
asserted, since there the marker is appended to the text. The request need not be
valid.
-/

namespace ReleaseNames

inductive Facet where
  | marker
  | partNumbers
  | volumeNumbers
  | name
deriving DecidableEq

/-- The side on which a rule works alone, if there is one. -/
def Rule.facet? : Rule → Option Facet
  | .fcRm | .fcRmIfComplete | .fcShort | .fcFull => some .marker
  | .pnRm | .pnRmIfComplete | .pnZeroPad | .pnShort | .pnFull => some .partNumbers
  | .vnRm | .vnNumber | .vnMerge | .vnZeroPad | .vnShort | .vnFull => some .volumeNumbers
  | .sTitle | .sSlug | .ssRmStopwords | .ssRmSubtitle | .ssAcronym | .ssFirst | .ssMaxLen =>
    some .name
  | _ => none

theorem Rule.not_mem_texts_of_facet? {rule : Rule} {side : Facet} (h : rule.facet? = some side) :
    rule ∉ Rule.texts := by
  cases rule <;> first | decide | cases h

/-- An interleaving of chains: each call is the next one of some chain, until all are used up. -/
inductive Interleaves : (Facet → List Call) → List Call → Prop
  | nil {chains : Facet → List Call} (h : ∀ side, chains side = []) : Interleaves chains []
  | next {chains : Facet → List Call} (side : Facet) {call : Call} {rest calls : List Call}
    (hnext : chains side = call :: rest)
    (h : Interleaves (Function.update chains side rest) calls) : Interleaves chains (call :: calls)

variable {ctx : Context} {v w : Value} {call : Call} {side other : Facet}

namespace Value

/-- A change of one side of a value. Only that of the volume numbers can fail. A name is changed
whatever the notes are. -/
inductive ChangeOf : Facet → (Value → Except NamingError Value) → Prop
  | marker (f : Slot Marker → Slot Marker) :
    ChangeOf .marker (mapNotesM fun n => .ok { n with marker := f n.marker })
  | partNumbers (f : Slot (List PartNumber) → Slot (List PartNumber)) :
    ChangeOf .partNumbers (mapNotesM fun n => .ok { n with partNumbers := f n.partNumbers })
  | volumeNumbers (f : Slot VolumeNumbers → Except NamingError (Slot VolumeNumbers)) :
    ChangeOf .volumeNumbers (mapNotesM fun n =>
      (f n.volumeNumbers).map fun slot => { n with volumeNumbers := slot })
  | name {f : Value → Value} (hnotes : ∀ v g, mapNotesM g (f v) = (mapNotesM g v).map f)
    (hterminal : ∀ v, (f v).isTerminal = v.isTerminal) : ChangeOf .name fun v => .ok (f v)

theorem mapNotesM_ok (f : Notes → Notes) (v : Value) :
    v.mapNotesM (fun n => .ok (f n)) = .ok (v.mapNotes f) := by
  cases v <;> rfl

theorem mapNotesM_bind (f g : Notes → Except NamingError Notes) (v : Value) :
    (v.mapNotesM f >>= mapNotesM g) = v.mapNotesM fun n => f n >>= g := by
  cases v with
  | string s m => rfl
  | _ =>
    simp only [mapNotesM]
    cases f _ <;> rfl

theorem mapNotesM_nameSeries (name : String) (v : Value) (g : Notes → Except NamingError Notes) :
    (v.nameSeries name).mapNotesM g = (v.mapNotesM g).map (nameSeries name) := by
  cases v with
  | string s m => rfl
  | _ =>
    simp only [nameSeries, mapNotesM]
    cases g _ <;> rfl

theorem mapNotesM_mapName (f : List Char → List Char) (v : Value)
    (g : Notes → Except NamingError Notes) :
    (v.mapName f).mapNotesM g = (v.mapNotesM g).map (mapName f) := by
  cases v with
  | string s m => rfl
  | _ =>
    simp only [mapName, mapNotesM]
    cases g _ <;> rfl

theorem renderMarker_eq_mapNotes (f : Marker → String) (hv : v.isTerminal = false) :
    v.renderMarker f = v.mapNotes (Notes.renderMarker f) := by
  cases v with
  | string s m => cases hv
  | _ => rfl

namespace ChangeOf

variable {f g : Value → Except NamingError Value}

theorem isTerminal (h : ChangeOf side f) (hw : f v = .ok w) : w.isTerminal = v.isTerminal := by
  cases h with
  | name _ hterminal =>
    cases hw
    exact hterminal v
  | _ => exact isTerminal_of_mapNotesM hw

theorem exists_eq_ok (h : ChangeOf side f) (hside : side ≠ .volumeNumbers) (v : Value) :
    ∃ w, f v = .ok w := by
  cases h with
  | volumeNumbers => exact absurd rfl hside
  | name => exact ⟨_, rfl⟩
  | _ => exact ⟨_, mapNotesM_ok _ v⟩

theorem nameSeries (name : String) : ChangeOf .name fun v => .ok (v.nameSeries name) :=
  .name (mapNotesM_nameSeries name) (isTerminal_nameSeries name)

theorem mapName (f : List Char → List Char) : ChangeOf .name fun v => .ok (v.mapName f) :=
  .name (mapNotesM_mapName f) (isTerminal_mapName f)

/-- Changes of different sides can be made in either order. -/
theorem comm (hf : ChangeOf side f) (hg : ChangeOf other g) (hne : side ≠ other) (v : Value) :
    (f v >>= g) = (g v >>= f) := by
  have hnotes : ∀ {f g : Notes → Except NamingError Notes}, (∀ n, (f n >>= g) = (g n >>= f)) →
      (v.mapNotesM f >>= mapNotesM g) = (v.mapNotesM g >>= mapNotesM f) := fun hcomm => by
    rw [mapNotesM_bind, mapNotesM_bind, funext hcomm]
  cases hf with
  | name hname =>
    cases hg with
    | name => exact absurd rfl hne
    | _ => exact hname v _
  | marker f =>
    cases hg with
    | name hname => exact (hname v _).symm
    | marker => exact absurd rfl hne
    | partNumbers => exact hnotes fun n => rfl
    | volumeNumbers g =>
      exact hnotes fun n => by
        rw [Outcome.ok_bind]
        cases g n.volumeNumbers <;> rfl
  | partNumbers f =>
    cases hg with
    | name hname => exact (hname v _).symm
    | partNumbers => exact absurd rfl hne
    | marker => exact hnotes fun n => rfl
    | volumeNumbers g =>
      exact hnotes fun n => by
        rw [Outcome.ok_bind]
        cases g n.volumeNumbers <;> rfl
  | volumeNumbers f =>
    cases hg with
    | name hname => exact (hname v _).symm
    | volumeNumbers => exact absurd rfl hne
    | _ =>
      exact hnotes fun n => by
        rw [Outcome.ok_bind]
        cases f n.volumeNumbers <;> rfl

end ChangeOf

end Value

/-- To render volume numbers is to change their slot. -/
theorem Notes.exists_renderVolumeNumbers_eq (f : VolumeNumbers → Except Overflow String) :
    ∃ g : Slot VolumeNumbers → Except NamingError (Slot VolumeNumbers), ∀ n : Notes,
      n.renderVolumeNumbers f =
        (g n.volumeNumbers).map fun slot => { n with volumeNumbers := slot } := by
  refine ⟨fun slot => (renderVolumeNumbers f ⟨slot, .absent, .absent⟩).map (·.volumeNumbers),
    fun n => ?_⟩
  obtain ⟨volumeNumbers, partNumbers, marker⟩ := n
  cases volumeNumbers with
  | raw vns =>
    simp only [renderVolumeNumbers]
    cases f vns <;> rfl
  | _ => rfl

namespace Call

/-- The effect of a rule that works on one side alone. -/
theorem exists_changeOf (ctx : Context) (h : call.rule.facet? = some side) :
    ∃ f, Value.ChangeOf side f ∧
      ∀ v : Value, v.isTerminal = false → call.transform ctx v = f v := by
  have hok : ∀ (f : Notes → Notes) (v : Value),
      (.ok (v.mapNotes f) : Except NamingError Value) = v.mapNotesM fun n => .ok (f n) :=
    fun f v => (v.mapNotesM_ok f).symm
  obtain ⟨rule, args⟩ := call
  cases rule with
  | fcRm => cases h; exact ⟨_, .marker Slot.dropRaw, fun v _ => hok Notes.dropMarker v⟩
  | fcRmIfComplete =>
    cases h
    refine ⟨_, .marker fun slot => if ctx.request.marker.complete then slot.dropRaw else slot,
      fun v _ => ?_⟩
    cases hcomplete : ctx.request.marker.complete <;> cases v <;>
      simp only [transform, hcomplete] <;> rfl
  | fcShort | fcFull =>
    cases h
    exact ⟨_, .marker (Slot.render _), fun v hv =>
      (congrArg Except.ok (v.renderMarker_eq_mapNotes _ hv)).trans (hok (Notes.renderMarker _) v)⟩
  | pnRm => cases h; exact ⟨_, .partNumbers Slot.dropRaw, fun v _ => hok Notes.dropPartNumbers v⟩
  | pnRmIfComplete =>
    cases h
    refine ⟨_, .partNumbers fun slot => if ctx.request.marker.complete then slot.dropRaw else slot,
      fun v _ => ?_⟩
    cases hcomplete : ctx.request.marker.complete <;> cases v <;>
      simp only [transform, hcomplete] <;> rfl
  | pnZeroPad =>
    cases h
    exact ⟨_, .partNumbers (Slot.mapRaw _), fun v _ => hok Notes.padPartNumbers v⟩
  | pnShort | pnFull =>
    cases h
    exact ⟨_, .partNumbers (Slot.render _), fun v _ => hok (Notes.renderPartNumbers _) v⟩
  | vnRm =>
    cases h
    exact ⟨_, .volumeNumbers fun slot => .ok slot.dropRaw, fun v _ => hok Notes.dropVolumeNumbers v⟩
  | vnNumber | vnZeroPad =>
    cases h
    exact ⟨_, .volumeNumbers fun slot => .ok (slot.mapRaw _),
      fun v _ => hok (Notes.mapSegments _) v⟩
  | vnMerge =>
    cases h
    exact ⟨_, .volumeNumbers fun slot => .ok (slot.mapRaw _),
      fun v _ => hok Notes.mergeVolumeNumbers v⟩
  | vnShort | vnFull =>
    cases h
    obtain ⟨g, hg⟩ := Notes.exists_renderVolumeNumbers_eq _
    exact ⟨_, .volumeNumbers g, fun v _ => congrArg v.mapNotesM (funext hg)⟩
  | sTitle | sSlug => cases h; exact ⟨_, .nameSeries _, fun v _ => rfl⟩
  | ssRmStopwords | ssRmSubtitle | ssAcronym | ssFirst | ssMaxLen =>
    cases h
    exact ⟨_, .mapName _, fun v _ => rfl⟩
  | _ => cases h

theorem exists_apply_changeOf (ctx : Context) (h : call.rule.facet? = some side) :
    ∃ f, Value.ChangeOf side f ∧ ∀ v : Value, v.isTerminal = false → call.apply ctx v = f v := by
  obtain ⟨f, hf, htransform⟩ := exists_changeOf ctx h
  have htexts := Rule.not_mem_texts_of_facet? h
  refine ⟨f, hf, fun v hv => ?_⟩
  rw [apply_of_admits (Rule.admits_of_not_mem_texts htexts hv), htransform v hv]

theorem isTerminal_of_side (h : call.rule.facet?.isSome) (hv : v.isTerminal = false)
    (hw : call.apply ctx v = .ok w) : w.isTerminal = false := by
  obtain ⟨side, hside⟩ := Option.isSome_iff_exists.mp h
  obtain ⟨f, hf, happly⟩ := exists_apply_changeOf ctx hside
  rw [happly v hv] at hw
  exact (hf.isTerminal hw).trans hv

/-- A rule on one side gives a value, unless it renders volume numbers and overflows. -/
theorem exists_apply_of_side (ctx : Context) (h : call.rule.facet? = some side)
    (hv : v.isTerminal = false) :
    (∃ w, call.apply ctx v = .ok w) ∨ side = .volumeNumbers ∧ call.Overflows v ∧
      call.apply ctx v = .error (.overflow .successor) := by
  obtain ⟨f, hf, happly⟩ := exists_apply_changeOf ctx h
  have htransform : call.apply ctx v = call.transform ctx v :=
    apply_of_admits (Rule.admits_of_not_mem_texts (Rule.not_mem_texts_of_facet? h) hv)
  by_cases hside : side = .volumeNumbers
  · cases hw : call.apply ctx v with
    | ok w => exact .inl ⟨w, rfl⟩
    | error e =>
      rw [htransform] at hw
      have hrule : call.rule = .vnShort ∨ call.rule = .vnFull := by
        obtain ⟨rule, args⟩ := call
        cases rule with
        | vnShort => exact .inl rfl
        | vnFull => exact .inr rfl
        | vnRm | vnNumber | vnMerge | vnZeroPad => cases hw
        | _ => rw [hside] at h; cases h
      obtain ⟨hover, rfl⟩ := (transform_eq_error_iff hrule).mp hw
      exact .inr ⟨hside, hover, rfl⟩
  · rw [happly v hv]
    exact .inl (hf.exists_eq_ok hside v)

/-- One step: two calls on different sides can be made in either order. -/
theorem apply_comm (ctx : Context) {a b : Call} (ha : a.rule.facet? = some side)
    (hb : b.rule.facet? = some other) (hne : side ≠ other) (hv : v.isTerminal = false) :
    (a.apply ctx v >>= b.apply ctx) = (b.apply ctx v >>= a.apply ctx) := by
  obtain ⟨f, hf, hfapply⟩ := exists_apply_changeOf ctx ha
  obtain ⟨g, hg, hgapply⟩ := exists_apply_changeOf ctx hb
  have hfirst : (a.apply ctx v >>= b.apply ctx) = (f v >>= g) := by
    rw [hfapply v hv]
    cases hw : f v with
    | error e => rfl
    | ok w => exact hgapply w ((hf.isTerminal hw).trans hv)
  have hsecond : (b.apply ctx v >>= a.apply ctx) = (g v >>= f) := by
    rw [hgapply v hv]
    cases hw : g v with
    | error e => rfl
    | ok w => exact hfapply w ((hg.isTerminal hw).trans hv)
  rw [hfirst, hsecond, hf.comm hg hne v]

/-- Two calls on different sides give a value, unless one of them overflows on the first value. -/
theorem exists_apply_pair (ctx : Context) {a b : Call} (ha : a.rule.facet? = some side)
    (hb : b.rule.facet? = some other) (hne : side ≠ other) (hv : v.isTerminal = false) :
    (∃ w, (a.apply ctx v >>= b.apply ctx) = .ok w) ∨
      (a.apply ctx v >>= b.apply ctx) = .error (.overflow .successor) ∧
        (a.Overflows v ∨ b.Overflows v) := by
  rcases exists_apply_of_side ctx ha hv with ⟨u, hu⟩ | ⟨-, hover, herror⟩
  · have hstructured := isTerminal_of_side (Option.isSome_of_eq_some ha) hv hu
    rcases exists_apply_of_side ctx hb hstructured with ⟨w, hw⟩ | ⟨hother, -⟩
    · exact .inl ⟨w, by rw [hu, Outcome.ok_bind, hw]⟩
    · -- Then the first call is on another side, so it cannot fail, and it can be made second.
      rw [apply_comm ctx ha hb hne hv]
      rcases exists_apply_of_side ctx hb hv with ⟨u', hu'⟩ | ⟨-, hover, herror⟩
      · have hstructured' := isTerminal_of_side (Option.isSome_of_eq_some hb) hv hu'
        rcases exists_apply_of_side ctx ha hstructured' with ⟨w, hw⟩ | ⟨hside, -⟩
        · exact .inl ⟨w, by rw [hu', Outcome.ok_bind, hw]⟩
        · exact absurd (hside.trans hother.symm) hne
      · exact .inr ⟨by rw [herror, Outcome.error_bind], .inr hover⟩
  · exact .inr ⟨by rw [herror, Outcome.error_bind], .inl hover⟩

end Call

namespace Pipeline

variable {a b : Call} {calls before after xs ys : List Call}

theorem applyAll_cons_eq_bind (ctx : Context) (call : Call) (calls : List Call) (v : Value) :
    applyAll ctx (call :: calls) v = call.apply ctx v >>= applyAll ctx calls := by
  rw [applyAll]
  cases call.apply ctx v <;> rfl

theorem applyAll_swap (ha : a.rule.facet? = some side) (hb : b.rule.facet? = some other)
    (hne : side ≠ other) (hv : v.isTerminal = false) (calls : List Call) :
    applyAll ctx (a :: b :: calls) v = applyAll ctx (b :: a :: calls) v := by
  have hpair := congrArg (· >>= applyAll ctx calls) (Call.apply_comm ctx ha hb hne hv)
  simp only [bind_assoc, ← applyAll_cons_eq_bind] at hpair
  exact hpair

/-- A call can be made before all calls on other sides that precede it. -/
theorem applyAll_bring (ha : a.rule.facet? = some side)
    (hbefore : ∀ b ∈ before, b.rule.facet?.isSome ∧ b.rule.facet? ≠ some side)
    (hv : v.isTerminal = false) (after : List Call) :
    applyAll ctx (before ++ a :: after) v = applyAll ctx (a :: (before ++ after)) v := by
  induction before generalizing v with
  | nil => rfl
  | cons b before ih =>
    obtain ⟨⟨hsome, hne⟩, hrest⟩ := List.forall_mem_cons.mp hbefore
    obtain ⟨other, hother⟩ := Option.isSome_iff_exists.mp hsome
    have hsides : side ≠ other := fun h => hne (h ▸ hother)
    have hnext : applyAll ctx (b :: (before ++ a :: after)) v =
        applyAll ctx (b :: a :: (before ++ after)) v := by
      rw [applyAll_cons_eq_bind, applyAll_cons_eq_bind]
      cases hw : b.apply ctx v with
      | error e => rfl
      | ok w => exact ih hrest (Call.isTerminal_of_side hsome hv hw)
    exact hnext.trans (applyAll_swap ha hother hsides hv _).symm

def onSide (side : Facet) (calls : List Call) : List Call :=
  calls.filter fun call => call.rule.facet? = some side

theorem onSide_append (side : Facet) (xs ys : List Call) :
    onSide side (xs ++ ys) = onSide side xs ++ onSide side ys :=
  List.filter_append xs ys

theorem onSide_cons_of_pos (h : call.rule.facet? = some side) (calls : List Call) :
    onSide side (call :: calls) = call :: onSide side calls :=
  List.filter_cons_of_pos (by simpa using h)

theorem onSide_cons_of_ne (h : call.rule.facet? = some side) (hne : other ≠ side)
    (calls : List Call) : onSide other (call :: calls) = onSide other calls :=
  List.filter_cons_of_neg (by simpa [h] using hne.symm)

theorem onSide_eq_nil (h : ∀ c ∈ calls, c.rule.facet? ≠ some side) : onSide side calls = [] :=
  List.filter_eq_nil_iff.mpr fun c hc => by simpa using h c hc

/-- The first call on a side, with what comes before and after it. -/
theorem onSide_eq_cons (h : onSide side ys = call :: xs) :
    ∃ before after, ys = before ++ call :: after ∧ (∀ c ∈ before, c.rule.facet? ≠ some side) ∧
      onSide side after = xs := by
  obtain ⟨before, after, hys, hbefore, -, hafter⟩ := List.filter_eq_cons_iff.mp h
  exact ⟨before, after, hys, fun c hc => by simpa using hbefore c hc, hafter⟩

/-- A run of calls on single sides depends only on the order that the calls on each side have. -/
theorem applyAll_eq_of_onSide (hxs : ∀ c ∈ xs, c.rule.facet?.isSome)
    (hys : ∀ c ∈ ys, c.rule.facet?.isSome) (h : ∀ side, onSide side xs = onSide side ys)
    (hv : v.isTerminal = false) : applyAll ctx xs v = applyAll ctx ys v := by
  induction xs generalizing ys v with
  | nil =>
    have hnil : ys = [] := by
      rw [List.eq_nil_iff_forall_not_mem]
      intro c hc
      obtain ⟨side, hside⟩ := Option.isSome_iff_exists.mp (hys c hc)
      have hmem : c ∈ onSide side ys := List.mem_filter.mpr ⟨hc, by simpa using hside⟩
      rw [← h side] at hmem
      cases hmem
    rw [hnil]
  | cons x xs ih =>
    obtain ⟨hx, hxs⟩ := List.forall_mem_cons.mp hxs
    obtain ⟨side, hside⟩ := Option.isSome_iff_exists.mp hx
    -- The first call of the one run is in the other the first on its side, so it can be made first.
    have hhead : onSide side ys = x :: onSide side xs := by
      rw [← h side, onSide_cons_of_pos hside]
    obtain ⟨before, after, rfl, hbefore, hafter⟩ := onSide_eq_cons hhead
    have hbring : applyAll ctx (before ++ x :: after) v = applyAll ctx (x :: (before ++ after)) v :=
      applyAll_bring hside (fun b hb => ⟨hys b (List.mem_append_left _ hb), hbefore b hb⟩) hv after
    have hrest : ∀ s, onSide s xs = onSide s (before ++ after) := by
      intro s
      by_cases hs : s = side
      · rw [hs, onSide_append, onSide_eq_nil hbefore, hafter]
        rfl
      · have hlists := h s
        rwa [onSide_cons_of_ne hside hs, onSide_append, onSide_cons_of_ne hside hs,
          ← onSide_append] at hlists
    have hothers : ∀ c ∈ before ++ after, c.rule.facet?.isSome := fun c hc =>
      hys c (List.mem_append.mpr ((List.mem_append.mp hc).imp_right (List.mem_cons_of_mem x)))
    rw [hbring, applyAll_cons_eq_bind, applyAll_cons_eq_bind]
    cases hw : x.apply ctx v with
    | error e => rfl
    | ok w => exact ih hxs hothers hrest (Call.isTerminal_of_side hx hv hw)

/-- A run of the calls from the value comes to a call that overflows. -/
def Overflows (ctx : Context) (calls : List Call) (v : Value) : Prop :=
  ∃ before call after u, calls = before ++ call :: after ∧ applyAll ctx before v = .ok u ∧
    call.Overflows u

theorem not_overflows_of_reaches {seed : Seed} (h : ctx.Reaches seed v) :
    ¬ Overflows ctx calls v := by
  rintro ⟨before, call, after, u, -, hrun, hover⟩
  exact (h.applyAll hrun).not_overflows hover

/-- A run of calls on single sides gives a value, unless one of them overflows. -/
theorem exists_applyAll_of_sides (hcalls : ∀ c ∈ calls, c.rule.facet?.isSome)
    (hv : v.isTerminal = false) :
    (∃ w, applyAll ctx calls v = .ok w ∧ w.isTerminal = false) ∨
      applyAll ctx calls v = .error (.overflow .successor) ∧ Overflows ctx calls v := by
  induction calls generalizing v with
  | nil => exact .inl ⟨v, rfl, hv⟩
  | cons call calls ih =>
    obtain ⟨hsome, hrest⟩ := List.forall_mem_cons.mp hcalls
    obtain ⟨side, hside⟩ := Option.isSome_iff_exists.mp hsome
    rcases Call.exists_apply_of_side ctx hside hv with ⟨w, hw⟩ | ⟨-, hover, herror⟩
    · rw [applyAll_cons hw]
      rcases ih hrest (Call.isTerminal_of_side hsome hv hw) with hvalue | ⟨herror, hmeets⟩
      · exact .inl hvalue
      · obtain ⟨before, failing, after, u, rfl, hbefore, hover⟩ := hmeets
        refine .inr ⟨herror, call :: before, failing, after, u, rfl, ?_, hover⟩
        rw [applyAll_cons hw, hbefore]
    · exact .inr ⟨by rw [applyAll_cons_eq_bind, herror, Outcome.error_bind],
        [], call, calls, v, rfl, rfl, hover⟩

theorem not_overflows_of_sides (hcalls : ∀ c ∈ calls, c.rule.facet? ≠ some .volumeNumbers) :
    ¬ Overflows ctx calls v := by
  rintro ⟨before, call, after, u, rfl, -, n, vns, -, -, hrule⟩
  refine hcalls call (by simp) ?_
  rcases hrule with ⟨hrule, -⟩ | ⟨hrule, -⟩ <;> rw [hrule] <;> rfl

end Pipeline

namespace Interleaves

variable {chains : Facet → List Call} {calls : List Call}

theorem onSide (h : Interleaves chains calls)
    (hchains : ∀ side, ∀ call ∈ chains side, call.rule.facet? = some side) :
    (∀ call ∈ calls, call.rule.facet?.isSome) ∧
      ∀ side, Pipeline.onSide side calls = chains side := by
  induction h with
  | nil hnil => exact ⟨by simp, fun side => (hnil side).symm⟩
  | @next chains side call rest calls hnext _ ih =>
    have hcall : call.rule.facet? = some side := hchains side call (by simp [hnext])
    have hrest : ∀ s, ∀ c ∈ Function.update chains side rest s, c.rule.facet? = some s := by
      intro s c hc
      by_cases hs : s = side
      · subst hs
        rw [Function.update_self] at hc
        exact hchains s c (by rw [hnext]; exact List.mem_cons_of_mem call hc)
      · rw [Function.update_of_ne hs] at hc
        exact hchains s c hc
    obtain ⟨hsome, hsides⟩ := ih hrest
    refine ⟨List.forall_mem_cons.mpr ⟨by simp [hcall], hsome⟩, fun s => ?_⟩
    by_cases hs : s = side
    · subst hs
      rw [Pipeline.onSide_cons_of_pos hcall, hsides, Function.update_self, hnext]
    · rw [Pipeline.onSide_cons_of_ne hcall hs, hsides, Function.update_of_ne hs]

/-- A chain can be used up first. -/
theorem prepend (side : Facet) (h : Interleaves (Function.update chains side []) calls) :
    Interleaves chains (chains side ++ calls) := by
  generalize hchain : chains side = chain
  induction chain generalizing chains with
  | nil => rwa [← hchain, Function.update_eq_self] at h
  | cons call rest ih =>
    refine .next side hchain (ih ?_ (Function.update_self ..))
    rwa [Function.update_idem]

/-- The chains one after the other, in any order of the sides, are an interleaving of them. -/
theorem flatMap {order : List Facet} (hnodup : order.Nodup)
    (hall : ∀ side, side ∉ order → chains side = []) :
    Interleaves chains (order.flatMap chains) := by
  induction order generalizing chains with
  | nil => exact .nil fun side => hall side List.not_mem_nil
  | cons side order ih =>
    obtain ⟨hside, hnodup⟩ := List.nodup_cons.mp hnodup
    have hsame : order.flatMap (Function.update chains side []) = order.flatMap chains :=
      List.flatMap_congr fun other hother =>
        Function.update_of_ne (ne_of_mem_of_not_mem hother hside) _ _
    have hrest : Interleaves (Function.update chains side []) (order.flatMap chains) := by
      rw [← hsame]
      refine ih hnodup fun other hother => ?_
      by_cases heq : other = side
      · rw [heq, Function.update_self]
      · rw [Function.update_of_ne heq]
        exact hall other (by simp [heq, hother])
    exact hrest.prepend side

theorem flatMap_of_all (chains : Facet → List Call) (order : List Facet) (hnodup : order.Nodup)
    (hall : ∀ side, side ∈ order) : Interleaves chains (order.flatMap chains) :=
  flatMap hnodup fun side hside => absurd (hall side) hside

/-- All interleavings of chains on the four sides have one outcome: a value, unless the chain on the
volume numbers alone overflows. -/
theorem exists_outcome (ctx : Context)
    (hchains : ∀ side, ∀ call ∈ chains side, call.rule.facet? = some side)
    (hv : v.isTerminal = false) :
    ∃ outcome, (∀ calls, Interleaves chains calls → Pipeline.applyAll ctx calls v = outcome) ∧
      ((∃ w, outcome = .ok w) ∨ outcome = .error (.overflow .successor) ∧
        Pipeline.Overflows ctx (chains .volumeNumbers) v) := by
  let others : List Facet := [.marker, .partNumbers, .name]
  have hfirst : Interleaves chains (chains .volumeNumbers ++ others.flatMap chains) :=
    flatMap_of_all chains (.volumeNumbers :: others) (by decide) (by rintro ⟨⟩ <;> decide)
  obtain ⟨hsome, hsides⟩ := hfirst.onSide hchains
  refine ⟨Pipeline.applyAll ctx (chains .volumeNumbers ++ others.flatMap chains) v,
    fun calls hcalls => ?_, ?_⟩
  · obtain ⟨hsome', hsides'⟩ := hcalls.onSide hchains
    exact Pipeline.applyAll_eq_of_onSide hsome' hsome
      (fun side => (hsides' side).trans (hsides side).symm) hv
  · obtain ⟨hsomeFirst, hsomeRest⟩ := List.forall_mem_append.mp hsome
    rw [Pipeline.applyAll_append]
    rcases Pipeline.exists_applyAll_of_sides hsomeFirst hv with ⟨u, hu, hterminal⟩ | ⟨herror, hover⟩
    · rw [hu, Outcome.ok_bind]
      rcases Pipeline.exists_applyAll_of_sides hsomeRest hterminal with ⟨w, hw, -⟩ | ⟨-, hover⟩
      · exact .inl ⟨w, hw⟩
      · refine absurd hover (Pipeline.not_overflows_of_sides fun call hcall => ?_)
        obtain ⟨side, hside, hmem⟩ := List.mem_flatMap.mp hcall
        rw [hchains side call hmem]
        revert hside
        cases side <;> decide
    · exact .inr ⟨by rw [herror, Outcome.error_bind], hover⟩

end Interleaves

/-- On a value that is no string, two calls on different sides have the same outcome in either
order, and four chains of calls, one on each side, have the same outcome one after the other and in
every interleaving. That is a value, unless volume numbers are rendered that overflow, and no value
that a run reaches has such volume numbers. -/
theorem sides_commute (ctx : Context) {v : Value} (hv : v.isTerminal = false) :
    (∀ (a b : Call) (side other : Facet), a.rule.facet? = some side → b.rule.facet? = some other →
      side ≠ other → ∃ outcome, (a.apply ctx v >>= b.apply ctx) = outcome ∧
        (b.apply ctx v >>= a.apply ctx) = outcome ∧
          ((∃ w, outcome = .ok w) ∨ outcome = .error (.overflow .successor) ∧
            (a.Overflows v ∨ b.Overflows v) ∧ ∀ seed, ¬ ctx.Reaches seed v)) ∧
    ∀ chains : Facet → List Call,
      (∀ side, ∀ call ∈ chains side, call.rule.facet? = some side) →
        ∃ outcome, Pipeline.applyAll ctx (chains .marker ++ chains .partNumbers
            ++ chains .volumeNumbers ++ chains .name) v = outcome ∧
          (∀ calls, Interleaves chains calls → Pipeline.applyAll ctx calls v = outcome) ∧
            ((∃ w, outcome = .ok w) ∨ outcome = .error (.overflow .successor) ∧
              Pipeline.Overflows ctx (chains .volumeNumbers) v ∧
                ∀ seed, ¬ ctx.Reaches seed v) := by
  constructor
  · intro a b side other ha hb hne
    refine ⟨_, rfl, (Call.apply_comm ctx ha hb hne hv).symm, ?_⟩
    rcases Call.exists_apply_pair ctx ha hb hne hv with hvalue | ⟨herror, hover⟩
    · exact .inl hvalue
    · exact .inr ⟨herror, hover, fun seed h => hover.elim h.not_overflows h.not_overflows⟩
  · intro chains hchains
    obtain ⟨outcome, hall, hvalue⟩ := Interleaves.exists_outcome ctx hchains hv
    have hconcat : Interleaves chains (chains .marker ++ chains .partNumbers
        ++ chains .volumeNumbers ++ chains .name) := by
      have hflat := Interleaves.flatMap_of_all chains
        [.marker, .partNumbers, .volumeNumbers, .name] (by decide) (by rintro ⟨⟩ <;> decide)
      simpa using hflat
    refine ⟨outcome, hall _ hconcat, hall, ?_⟩
    rcases hvalue with hvalue | ⟨herror, hover⟩
    · exact .inl hvalue
    · exact .inr ⟨herror, hover, fun seed h => Pipeline.not_overflows_of_reaches h hover⟩

/-- On a series name with all slots raw, with one rule of the table for each side. -/
theorem sides_commute_padded :
    let ctx : Context := ⟨⟨⟨"The Extra", none, none⟩, [⟨1, "S 1"⟩, ⟨2, "S 2"⟩],
      [⟨1, 3, "P"⟩, ⟨2, 1, "Q"⟩], ⟨true, false⟩⟩, .title⟩
    let v : Value := .seriesString "The Extra" [0, 1] [0, 1]
      ⟨.raw ⟨[.internal 0 1, .internal 1 2], false⟩, .raw [⟨0, "3"⟩, ⟨1, "1"⟩], .raw ⟨true, false⟩⟩
    let chains : Facet → List Call := fun side =>
      match side with
      | .marker => [.ofRule .fcFull]
      | .partNumbers => [.ofRule .pnZeroPad, .ofRule .pnShort]
      | .volumeNumbers => [.ofRule .vnMerge, .ofRule .vnShort]
      | .name => [.ofRule .ssRmStopwords]
    v.isTerminal = false ∧ (∀ side, ∀ call ∈ chains side, call.rule.facet? = some side) ∧
      Interleaves chains [.ofRule .pnZeroPad, .ofRule .vnMerge, .ofRule .ssRmStopwords,
        .ofRule .pnShort, .ofRule .fcFull, .ofRule .vnShort] ∧
      Pipeline.applyAll ctx [.ofRule .pnZeroPad, .ofRule .vnMerge, .ofRule .ssRmStopwords,
        .ofRule .pnShort, .ofRule .fcFull, .ofRule .vnShort] v =
          .ok (.seriesString "Extra" [0, 1] [0, 1]
            ⟨.rendered "1-2", .rendered "03-01", .rendered "[Final]"⟩) := by
  intro ctx v chains
  have hchains : ∀ side, ∀ call ∈ chains side, call.rule.facet? = some side := by
    intro side
    cases side <;> decide
  have hinterleaves : Interleaves chains [.ofRule .pnZeroPad, .ofRule .vnMerge,
      .ofRule .ssRmStopwords, .ofRule .pnShort, .ofRule .fcFull, .ofRule .vnShort] :=
    .next .partNumbers rfl <| .next .volumeNumbers rfl <| .next .name rfl <|
      .next .partNumbers rfl <| .next .marker rfl <| .next .volumeNumbers rfl <|
        .nil fun side => by cases side <;> rfl
  have hv : v.isTerminal = false := rfl
  obtain ⟨outcome, hw, hall, -⟩ := (sides_commute ctx hv).2 chains hchains
  have hvalue : Pipeline.applyAll ctx (chains .marker ++ chains .partNumbers
      ++ chains .volumeNumbers ++ chains .name) v = .ok (.seriesString "Extra" [0, 1] [0, 1]
        ⟨.rendered "1-2", .rendered "03-01", .rendered "[Final]"⟩) :=
    Outcome.eq_ok_of_toOption (by decide +kernel)
  rw [hvalue] at hw
  cases hw
  exact ⟨hv, hchains, hinterleaves, hall _ hinterleaves⟩

end ReleaseNames
