import ReleaseNames.Proofs.Reach

/-!
# The marker is used at most once

A value is live while a marker can still be used: its marker slot is raw, or it is
a string on which a marker is pending. No call makes a value live, a rule that
removes or renders the marker leaves it dead, and on a dead value the marker rules
do nothing. So of all the marker calls of a run at most one changes the value, and
the marker that it uses is the one of the request.
-/

namespace ReleaseNames

namespace Rule

/-- The rules that work on the marker. -/
def onMarker : List Rule := [.fcRm, .fcRmIfComplete, .fcShort, .fcFull]

/-- The rules that use up the marker on every value. -/
def usingMarker : List Rule := [.fcRm, .fcShort, .fcFull]

end Rule

namespace Value

/-- The marker that can still be used. -/
def live? : Value → Option Marker
  | .string _ marker => marker
  | .part _ notes => notes.marker.raw?
  | .volume _ _ notes => notes.marker.raw?
  | .series _ _ notes => notes.marker.raw?
  | .seriesString _ _ _ notes => notes.marker.raw?

end Value

variable {r : Request} {ctx : Context} {v w : Value} {m : Marker}

namespace Slot

variable {α : Type} {s : Slot α}

@[simp] theorem raw?_dropRaw (s : Slot α) : s.dropRaw.raw? = none := by
  cases s <;> rfl

@[simp] theorem raw?_render (f : α → String) (s : Slot α) : (s.render f).raw? = none := by
  cases s <;> rfl

theorem dropRaw_of_raw?_eq_none (h : s.raw? = none) : s.dropRaw = s := by
  cases s with
  | raw content => cases h
  | _ => rfl

theorem render_of_raw?_eq_none {f : α → String} (h : s.raw? = none) : s.render f = s := by
  cases s with
  | raw content => cases h
  | _ => rfl

theorem Edit.raw?_of_not_allowed {t : Slot α} {a : α} (h : s.Edit (fun _ _ => False) t)
    (ht : t.raw? = some a) : s.raw? = some a := by
  cases h with
  | keep => exact ht
  | drop => cases ht
  | change hfalse => exact hfalse.elim
  | render => cases ht

end Slot

namespace Value

theorem live?_of_notes? {n : Notes} (h : v.notes? = some n) : v.live? = n.marker.raw? := by
  cases v <;> cases h <;> rfl

theorem live?_mapNotes {f : Notes → Notes} {n : Notes} (h : v.notes? = some n) :
    (v.mapNotes f).live? = (f n).marker.raw? :=
  live?_of_notes? (notes?_mapNotes h)

theorem live?_collapse (head : Option String) (v : Value) : (v.collapse head).live? = v.live? := by
  cases v <;> rfl

theorem live?_renderMarker (f : Marker → String) (v : Value) : (v.renderMarker f).live? = none := by
  cases v with
  | string s m => cases m <;> rfl
  | _ => exact Slot.raw?_render f _

theorem renderMarker_of_dead {f : Marker → String} (h : v.live? = none) :
    v.renderMarker f = v := by
  cases v with
  | string s m =>
    obtain rfl : m = none := h
    rfl
  | _ => simp [renderMarker, mapNotes, Notes.renderMarker, Slot.render_of_raw?_eq_none h]

theorem live?_dropMarker (h : v.isTerminal = false) :
    (v.mapNotes Notes.dropMarker).live? = none := by
  obtain ⟨n, hn⟩ := exists_notes? h
  exact (live?_mapNotes hn).trans (Slot.raw?_dropRaw n.marker)

theorem dropMarker_of_dead (h : v.live? = none) : v.mapNotes Notes.dropMarker = v := by
  cases v with
  | string s m => rfl
  | _ => simp [mapNotes, Notes.dropMarker, Slot.dropRaw_of_raw?_eq_none h]

end Value

/-- One step: no effect makes a value live, and none exchanges the marker. -/
theorem Effect.not_revived (h : Effect r v w) (hw : w.live? = some m) : v.live? = some m := by
  cases h with
  | keep => exact hw
  | edit hn hedit =>
    rw [Value.live?_mapNotes hn] at hw
    rw [Value.live?_of_notes? hn]
    exact hedit.marker.raw?_of_not_allowed hw
  | partToVolume => exact hw
  | partToSeries => exact hw
  | volumeToSeries => exact hw
  | name => exact hw
  | rename => exact hw
  | collapse _ head => exact (Value.live?_collapse head v).symm.trans hw
  | legacy => cases hw
  | retext => exact hw
  | mark => cases hw

namespace Call

variable {call : Call}

theorem live?_of_apply (h : call.apply ctx v = .ok w) (hw : w.live? = some m) :
    v.live? = some m :=
  (Effect.of_apply h).not_revived hw

theorem dead_of_apply (h : call.apply ctx v = .ok w) (hv : v.live? = none) : w.live? = none := by
  cases hw : w.live? with
  | none => rfl
  | some m =>
    rw [live?_of_apply h hw] at hv
    cases hv

/-- What a marker call does: it renders the marker or drops it, and one of the rules may leave the
value as it is. -/
theorem onMarker_cases (hrule : call.rule ∈ Rule.onMarker) (h : call.apply ctx v = .ok w) :
    (∃ f, w = v.renderMarker f) ∨ (v.isTerminal = false ∧ w = v.mapNotes Notes.dropMarker) ∨
      (call.rule = .fcRmIfComplete ∧ w = v) := by
  obtain ⟨rule, args⟩ := call
  obtain ⟨hadmits, htransform⟩ := apply_eq_ok.mp h
  have hrules : rule = .fcRm ∨ rule = .fcRmIfComplete ∨ rule = .fcShort ∨ rule = .fcFull := by
    simpa [Rule.onMarker] using hrule
  rcases hrules with rfl | rfl | rfl | rfl
  · cases htransform
    exact .inr (.inl ⟨by simpa [Rule.accepts, Accepts.admits] using hadmits, rfl⟩)
  · cases htransform
    split
    · exact .inr (.inl ⟨by simpa [Rule.accepts, Accepts.admits] using hadmits, rfl⟩)
    · exact .inr (.inr ⟨rfl, rfl⟩)
  · cases htransform
    exact .inl ⟨Marker.short, rfl⟩
  · cases htransform
    exact .inl ⟨Marker.full, rfl⟩

theorem eq_of_apply_of_dead (hrule : call.rule ∈ Rule.onMarker) (h : call.apply ctx v = .ok w)
    (hv : v.live? = none) : w = v := by
  rcases onMarker_cases hrule h with ⟨f, rfl⟩ | ⟨-, rfl⟩ | ⟨-, rfl⟩
  · exact Value.renderMarker_of_dead hv
  · exact Value.dropMarker_of_dead hv
  · rfl

/-- A marker call that changes the value has used up the marker. -/
theorem dead_of_apply_of_ne (hrule : call.rule ∈ Rule.onMarker) (h : call.apply ctx v = .ok w)
    (hne : w ≠ v) : w.live? = none := by
  rcases onMarker_cases hrule h with ⟨f, rfl⟩ | ⟨hv, rfl⟩ | ⟨-, rfl⟩
  · exact Value.live?_renderMarker f v
  · exact Value.live?_dropMarker hv
  · exact absurd rfl hne

theorem mem_onMarker_of_usingMarker {rule : Rule} (h : rule ∈ Rule.usingMarker) :
    rule ∈ Rule.onMarker ∧ rule ≠ .fcRmIfComplete := by
  revert h
  cases rule <;> decide

theorem dead_of_usingMarker (hrule : call.rule ∈ Rule.usingMarker)
    (h : call.apply ctx v = .ok w) : w.live? = none := by
  obtain ⟨honMarker, hne⟩ := mem_onMarker_of_usingMarker hrule
  rcases onMarker_cases honMarker h with ⟨f, rfl⟩ | ⟨hv, rfl⟩ | ⟨hcomplete, -⟩
  · exact Value.live?_renderMarker f v
  · exact Value.live?_dropMarker hv
  · exact absurd hcomplete hne

theorem exists_apply_of_render (hrule : call.rule = .fcShort ∨ call.rule = .fcFull) :
    ∃ w, call.apply ctx v = .ok w := by
  obtain ⟨rule, args⟩ := call
  rcases hrule with rfl | rfl
  · exact ⟨_, rfl⟩
  · exact ⟨_, rfl⟩

theorem exists_apply_of_remove (hrule : call.rule = .fcRm) (hv : v.isTerminal = false) :
    ∃ w, call.apply ctx v = .ok w := by
  obtain ⟨rule, args⟩ := call
  cases hrule
  exact ⟨_, apply_of_admits (by simp [Rule.accepts, Accepts.admits, hv])⟩

end Call

theorem Request.live?_of_seed (h : r.seed = .ok v) : v.live? = some r.marker := by
  cases starts_of_seed h <;> rfl

theorem Context.Reaches.live? {seed : Seed} (h : ctx.Reaches seed v) (hv : v.live? = some m) :
    m = ctx.request.marker := by
  refine h.induct (P := fun u => ∀ k, u.live? = some k → k = ctx.request.marker) ?_ ?_ ?_ m hv
  · intro first hseed k hk
    rw [Request.live?_of_seed hseed] at hk
    exact (Option.some.inj hk).symm
  · intro text k hk
    cases hk
  · intro call u u' hstep hu k hk
    exact hu k (Call.live?_of_apply hstep hk)

namespace Pipeline

/-- How many marker calls of a run change the value. -/
def markerUses (ctx : Context) : List Call → Value → Nat
  | [], _ => 0
  | call :: calls, v =>
    match call.apply ctx v with
    | .ok w => (if call.rule ∈ Rule.onMarker ∧ w ≠ v then 1 else 0) + markerUses ctx calls w
    | .error _ => 0

theorem dead_of_applyAll {calls : List Call} (h : applyAll ctx calls v = .ok w)
    (hv : v.live? = none) : w.live? = none :=
  applyAll_preserves (P := fun u => u.live? = none) Call.dead_of_apply h hv

theorem markerUses_of_dead {calls : List Call} (hv : v.live? = none) :
    markerUses ctx calls v = 0 := by
  induction calls generalizing v with
  | nil => rfl
  | cons call calls ih =>
    rw [markerUses]
    split
    · next w hw =>
      have hsame : ¬ (call.rule ∈ Rule.onMarker ∧ w ≠ v) := fun ⟨hrule, hne⟩ =>
        hne (Call.eq_of_apply_of_dead hrule hw hv)
      rw [if_neg hsame, ih (Call.dead_of_apply hw hv)]
    · rfl

theorem markerUses_le_one (calls : List Call) (v : Value) : markerUses ctx calls v ≤ 1 := by
  induction calls generalizing v with
  | nil => exact Nat.zero_le 1
  | cons call calls ih =>
    rw [markerUses]
    split
    · next w hw =>
      split
      · next hchange =>
        -- The first change uses the marker up, so nothing after it counts.
        have hdead := Call.dead_of_apply_of_ne hchange.1 hw hchange.2
        exact Nat.le_of_eq (congrArg (1 + ·) (markerUses_of_dead hdead))
      · rw [Nat.zero_add]
        exact ih w
    · exact Nat.zero_le 1

example : markerUses ⟨⟨⟨"S", none, none⟩, [⟨1, "S 1"⟩], [⟨1, 3, "P"⟩], ⟨true, false⟩⟩, .title⟩
    [.ofRule .pTitle, .ofRule .fcFull, .ofRule .fcShort]
    (.part 0 (.ofMarker ⟨true, false⟩)) = 1 := by
  decide +kernel

end Pipeline

/-- What can be relied on of the marker in runs over a request, valid or not. -/
structure Context.UsesMarkerOnce (ctx : Context) : Prop where
  /-- No call makes a value live or exchanges its marker. -/
  not_revived : ∀ (call : Call) (v w : Value) (m : Marker),
    call.apply ctx v = .ok w → w.live? = some m → v.live? = some m
  /-- Rendering always succeeds, leaves the value dead, and does nothing to a dead value. -/
  rendered : ∀ (call : Call) (v : Value), call.rule = .fcShort ∨ call.rule = .fcFull →
    ∃ w, call.apply ctx v = .ok w ∧ w.live? = none ∧ (v.live? = none → w = v)
  /-- Removing succeeds on everything but strings and leaves the value dead. -/
  removed : ∀ (call : Call) (v : Value), call.rule = .fcRm → v.isTerminal = false →
    ∃ w, call.apply ctx v = .ok w ∧ w.live? = none
  /-- The marker of a live value is the one of the request. -/
  requested : ∀ (seed : Seed) (v : Value) (m : Marker), ctx.Reaches seed v →
    v.live? = some m → m = ctx.request.marker
  /-- At most one marker call of a run changes the value. -/
  once : ∀ (calls : List Call) (v : Value), Pipeline.markerUses ctx calls v ≤ 1
  /-- After the marker has been removed or rendered, no marker call changes the value, whatever
  has happened to it in between. -/
  settled : ∀ (call later : Call) (between : List Call) (v w u x : Value),
    call.rule ∈ Rule.usingMarker → call.apply ctx v = .ok w →
    Pipeline.applyAll ctx between w = .ok u →
    later.rule ∈ Rule.onMarker → later.apply ctx u = .ok x → x = u

theorem uses_marker_once (ctx : Context) : ctx.UsesMarkerOnce := by
  constructor
  · intro call v w m
    exact Call.live?_of_apply
  · intro call v hrule
    obtain ⟨w, hw⟩ := Call.exists_apply_of_render hrule
    have husing : call.rule ∈ Rule.usingMarker := by
      rcases hrule with hrule | hrule <;> rw [hrule] <;> decide
    exact ⟨w, hw, Call.dead_of_usingMarker husing hw,
      Call.eq_of_apply_of_dead (Call.mem_onMarker_of_usingMarker husing).1 hw⟩
  · intro call v hrule hv
    obtain ⟨w, hw⟩ := Call.exists_apply_of_remove hrule hv
    exact ⟨w, hw, Call.dead_of_usingMarker (by rw [hrule]; decide) hw⟩
  · intro seed v m hreaches
    exact hreaches.live?
  · intro calls v
    exact Pipeline.markerUses_le_one calls v
  · intro call later between v w u x hrule hw hbetween hlater hx
    have hdead : u.live? = none :=
      Pipeline.dead_of_applyAll hbetween (Call.dead_of_usingMarker hrule hw)
    exact Call.eq_of_apply_of_dead hlater hx hdead

end ReleaseNames
