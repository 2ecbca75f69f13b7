import Mathlib.Data.List.Nodup
import Mathlib.Order.Monotone.Defs
import ReleaseNames.Generator
import ReleaseNames.Proofs.Relabelling

/-!
# Names depend on volumes only through the parts

Two requests that package the same parts from the same volumes have the same
names, however the volumes are listed. In particular volumes with distinct
numbers can be listed in any order, and volumes to which no part belongs can be
listed or left out.
-/

namespace ReleaseNames

namespace Request

/-- The requests package the same parts of one series with one marker, and every part belongs to
the same volume in both. -/
structure SameHomes (r s : Request) : Prop where
  series : s.series = r.series
  parts : s.parts = r.parts
  marker : s.marker = r.marker
  homes : ∀ p ∈ r.parts, r.volumeOf? p = s.volumeOf? p

/-- Every program gives the requests the same names or the same error, and so does every channel
for every pipeline and every title that it reads. -/
structure SameNames (r s : Request) : Prop where
  generate : ∀ p : Program, Generator.generate ⟨p, .empty⟩ r = Generator.generate ⟨p, .empty⟩ s
  run : ∀ (p : Pipeline) (c : Channel) (title : Option String),
    p.run ⟨r, c⟩ title = p.run ⟨s, c⟩ title

variable {r s : Request}

theorem volumeOf?_of_volumeIndex? {p : Part} {v : Nat} (h : r.volumeIndex? p.volume = some v) :
    r.volumeOf? p = r.volumes[v]? := by
  rw [volumeOf?, h]

theorem isSome_volumeIndex?_iff {number : UInt32} :
    (r.volumeIndex? number).isSome ↔ ∃ volume ∈ r.volumes, volume.number = number := by
  simp [volumeIndex?]

theorem Valid.exists_volumeOf? (hr : r.Valid) {p : Part} (hp : p ∈ r.parts) :
    ∃ v volume, r.volumeIndex? p.volume = some v ∧ r.volumes[v]? = some volume ∧
      volume.number = p.volume ∧ r.volumeOf? p = some volume := by
  obtain ⟨v, hv⟩ := Option.isSome_iff_exists.mp ((valid_iff.mp hr).2.2 p hp)
  obtain ⟨volume, hvolume, hnumber⟩ := getElem?_of_volumeIndex? hv
  exact ⟨v, volume, hv, hvolume, hnumber, (volumeOf?_of_volumeIndex? hv).trans hvolume⟩

/-- The index in the second request of the volume at an index of the first. -/
def newIndex (r s : Request) (v : Nat) : Nat :=
  match r.volumes[v]? with
  | some volume => (s.volumeIndex? volume.number).getD 0
  | none => 0

theorem newIndex_of_volumeIndex? {p : Part} {v w : Nat} (hv : r.volumeIndex? p.volume = some v)
    (hw : s.volumeIndex? p.volume = some w) : newIndex r s v = w := by
  obtain ⟨volume, hvolume, hnumber⟩ := getElem?_of_volumeIndex? hv
  rw [newIndex, hvolume]
  dsimp only
  rw [hnumber, hw]
  rfl

theorem SameHomes.relabels (h : r.SameHomes s) (hr : r.Valid) (hs : s.Valid) :
    Relabels (newIndex r s) r s := by
  have hindices : ∀ p ∈ r.parts, ∃ v w, r.volumeIndex? p.volume = some v ∧
      s.volumeIndex? p.volume = some w ∧ s.volumes[w]? = r.volumes[v]? := by
    intro p hp
    obtain ⟨v, volume, hv, hvolume, -, hhome⟩ := hr.exists_volumeOf? hp
    obtain ⟨w, other, hw, hother, -, hothers⟩ := hs.exists_volumeOf? (h.parts ▸ hp)
    refine ⟨v, w, hv, hw, ?_⟩
    rw [hvolume, hother, ← hhome, ← hothers, h.homes p hp]
  constructor
  · exact h.series
  · exact h.parts
  · exact h.marker
  · intro p hp
    obtain ⟨v, w, hv, hw, -⟩ := hindices p hp
    rw [hv, hw, Option.map_some, newIndex_of_volumeIndex? hv hw]
  · intro v hv
    obtain ⟨p, hp, hhome⟩ := mem_spannedVolumes.mp hv
    obtain ⟨v', w, hv', hw, hrecord⟩ := hindices p hp
    obtain rfl : v = v' := Option.some.inj (hhome.symm.trans hv')
    rw [newIndex_of_volumeIndex? hv' hw, hrecord]

theorem SameHomes.sameNames (h : r.SameHomes s) (hr : r.Valid) (hs : s.Valid) :
    r.SameNames s := by
  have hrun : ∀ (p : Pipeline) (c : Channel) (title : Option String),
      p.run ⟨r, c⟩ title = p.run ⟨s, c⟩ title := fun p c title =>
    ((h.relabels hr hs).run p c title).symm
  refine ⟨fun p => ?_, hrun⟩
  have hname : ∀ c title, Generator.name ⟨p, .empty⟩ c r title =
      Generator.name ⟨p, .empty⟩ c s title := by
    intro c title
    cases c <;> exact hrun _ _ title
  have hcheck : r.check = s.check := Eq.trans hr (Eq.symm hs)
  simp only [Generator.generate, hcheck, hname]

def withVolumes (r : Request) (volumes : List Volume) : Request :=
  { r with volumes := volumes }

theorem Valid.withVolumes {volumes : List Volume} (hr : r.Valid)
    (h : ∀ p ∈ r.parts, ∃ volume ∈ volumes, volume.number = p.volume) :
    (r.withVolumes volumes).Valid := by
  obtain ⟨-, hparts, -⟩ := valid_iff.mp hr
  refine valid_iff.mpr ⟨?_, hparts, fun p hp => ?_⟩
  · obtain ⟨p, hp⟩ := List.exists_mem_of_ne_nil _ hparts
    obtain ⟨volume, hvolume, -⟩ := h p hp
    exact List.ne_nil_of_mem hvolume
  · exact isSome_volumeIndex?_iff.mpr (h p hp)

theorem sameNames_withVolumes {volumes : List Volume} (hr : r.Valid)
    (hs : (r.withVolumes volumes).Valid)
    (h : ∀ p ∈ r.parts, r.volumeOf? p = (r.withVolumes volumes).volumeOf? p) :
    r.SameNames (r.withVolumes volumes) :=
  SameHomes.sameNames ⟨rfl, rfl, rfl, h⟩ hr hs

/-- Listing volumes with distinct numbers in another order. -/
theorem sameNames_of_perm {volumes : List Volume} (hr : r.Valid)
    (hnodup : (r.volumes.map (·.number)).Nodup) (hperm : volumes.Perm r.volumes) :
    r.SameNames (r.withVolumes volumes) := by
  have hs : (r.withVolumes volumes).Valid := by
    apply hr.withVolumes
    intro p hp
    obtain ⟨v, volume, -, hvolume, hnumber, -⟩ := hr.exists_volumeOf? hp
    exact ⟨volume, hperm.mem_iff.mpr (List.mem_of_getElem? hvolume), hnumber⟩
  apply sameNames_withVolumes hr hs
  intro p hp
  obtain ⟨v, volume, -, hvolume, hnumber, hhome⟩ := hr.exists_volumeOf? hp
  obtain ⟨w, other, -, hother, hothers, hnew⟩ := hs.exists_volumeOf? hp
  have hmem : other ∈ r.volumes := hperm.mem_iff.mp (List.mem_of_getElem? hother)
  have heq : volume = other :=
    List.inj_on_of_nodup_map hnodup (List.mem_of_getElem? hvolume) hmem
      (hnumber.trans hothers.symm)
  rw [hhome, hnew, heq]

/-- The listed volumes appear in a longer list in the same order, at the indices that `f` tells, and
no part belongs to any of the other volumes there. -/
structure Extends (r : Request) (volumes : List Volume) (f : Nat → Nat) : Prop where
  mono : StrictMono f
  listed : ∀ v volume, r.volumes[v]? = some volume → volumes[f v]? = some volume
  unused : ∀ p ∈ r.parts, ∀ w, (r.withVolumes volumes).volumeIndex? p.volume = some w →
    ∃ v, v < r.volumes.length ∧ f v = w

theorem le_of_volumeIndex? {number : UInt32} {v w : Nat} {volume : Volume}
    (h : r.volumeIndex? number = some v) (hw : r.volumes[w]? = some volume)
    (hnumber : volume.number = number) : v ≤ w := by
  obtain ⟨_, _, hfirst⟩ := List.findIdx?_eq_some_iff_getElem.mp h
  obtain ⟨hlt, hvolume⟩ := List.getElem?_eq_some_iff.mp hw
  by_contra hgt
  apply hfirst w (by omega)
  rw [hvolume, hnumber, beq_self_eq_true]

/-- Listing more volumes, to which no part belongs. -/
theorem sameNames_of_extends {volumes : List Volume} {f : Nat → Nat} (hr : r.Valid)
    (h : r.Extends volumes f) : r.SameNames (r.withVolumes volumes) := by
  have hs : (r.withVolumes volumes).Valid := by
    apply hr.withVolumes
    intro p hp
    obtain ⟨v, volume, -, hvolume, hnumber, -⟩ := hr.exists_volumeOf? hp
    exact ⟨volume, List.mem_of_getElem? (h.listed v volume hvolume), hnumber⟩
  apply sameNames_withVolumes hr hs
  intro p hp
  obtain ⟨v, volume, hv, hvolume, hnumber, hhome⟩ := hr.exists_volumeOf? hp
  obtain ⟨w, other, hw, hother, hothers, hnew⟩ := hs.exists_volumeOf? hp
  obtain ⟨u, hu, rfl⟩ := h.unused p hp w hw
  -- The home in the long list comes from `u`, and `u` and `v` are each the first of their list.
  have hlisted := h.listed u r.volumes[u] (List.getElem?_eq_getElem hu)
  have heq : r.volumes[u] = other := Option.some.inj (hlisted.symm.trans hother)
  have hle : v ≤ u := le_of_volumeIndex? hv (List.getElem?_eq_getElem hu) (heq ▸ hothers)
  have hge : f u ≤ f v := le_of_volumeIndex? hw (h.listed v volume hvolume) hnumber
  obtain rfl : u = v := Nat.le_antisymm (h.mono.le_iff_le.mp hge) hle
  rw [hhome, hnew, ← heq]
  exact hvolume.symm.trans (List.getElem?_eq_getElem hu)

end Request

/-- Names depend on the volumes only through the parts: on which volume each part belongs to, and
neither on the order of volumes with distinct numbers nor on volumes to which no part belongs. -/
theorem names_depend_on_homes :
    (∀ r s : Request, r.Valid → s.Valid → r.SameHomes s → r.SameNames s) ∧
    (∀ (r : Request) (volumes : List Volume), r.Valid → (r.volumes.map (·.number)).Nodup →
      volumes.Perm r.volumes → r.SameNames (r.withVolumes volumes)) ∧
    ∀ (r : Request) (volumes : List Volume) (f : Nat → Nat), r.Valid → r.Extends volumes f →
      r.SameNames (r.withVolumes volumes) :=
  ⟨fun _ _ hr hs h => h.sameNames hr hs,
    fun _ _ hr hnodup hperm => Request.sameNames_of_perm hr hnodup hperm,
    fun _ _ _ hr h => Request.sameNames_of_extends hr h⟩

theorem names_depend_on_homes_listed :
    let r : Request := ⟨⟨"S", none, none⟩, [⟨1, "S 1"⟩, ⟨2, "S 2"⟩], [⟨2, 1, "P"⟩, ⟨1, 3, "Q"⟩],
      ⟨false, false⟩⟩
    r.SameNames (r.withVolumes [⟨2, "S 2"⟩, ⟨1, "S 1"⟩]) ∧
      r.SameNames (r.withVolumes [⟨3, "S 3"⟩, ⟨1, "S 1"⟩, ⟨2, "S 2"⟩]) := by
  obtain ⟨-, horder, hextend⟩ := names_depend_on_homes
  refine ⟨horder _ _ (by decide) (by decide) (.swap _ _ _), ?_⟩
  refine hextend _ _ Nat.succ (by decide) ⟨fun _ _ => Nat.succ_lt_succ, fun _ _ hv => hv, ?_⟩
  intro p hp w hw
  rcases List.mem_cons.mp hp with rfl | hp
  · cases hw
    exact ⟨1, by decide, rfl⟩
  · obtain rfl := List.mem_singleton.mp hp
    cases hw
    exact ⟨0, by decide, rfl⟩

end ReleaseNames
