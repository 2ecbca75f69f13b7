import Mathlib.Data.List.Nodup
import ReleaseNames.Proofs.Reach

/-!
# Part numbers and their own volumes

Along every run from the seed of a valid request, a value that is not a string
refers to all packaged parts and to exactly the spanned volumes. Its raw volume
numbers therefore have one entry for the home of each packaged part, so prefixing
raw part numbers cannot fail, and it leaves no part number without a prefix.
-/

namespace ReleaseNames

variable {r : Request} {v : Value}

theorem nodup_eraseDups : ∀ l : List Nat, l.eraseDups.Nodup
  | [] => List.nodup_nil
  | a :: l => by
    rw [List.eraseDups_cons, List.nodup_cons]
    exact ⟨by simp [List.mem_eraseDups], nodup_eraseDups _⟩
termination_by l => l.length
decreasing_by exact Nat.lt_succ_of_le (List.length_filter_le _ l)

theorem Request.nodup_spannedVolumes (r : Request) : r.spannedVolumes.Nodup :=
  nodup_eraseDups _

/-- The notes count the spanned volumes and the packaged parts, whatever the stage. -/
theorem Value.notes_aligned {n : Notes} (hv : v.Aligned r) (hn : v.notes? = some n) :
    n.Aligned r.spannedVolumes (List.range r.parts.length) := by
  cases v with
  | part i n' =>
    cases hn
    obtain ⟨-, -, hvolume, hpart⟩ := hv
    exact ⟨by simp [hvolume], by simp [hpart]⟩
  | volume w parts n' =>
    cases hn
    obtain ⟨hspan, hparts, -, haligned⟩ := hv
    rw [hspan, ← hparts]
    exact haligned
  | series volumes parts n' =>
    cases hn
    rw [← hv.1, ← hv.2.1]
    exact hv.2.2
  | seriesString name volumes parts n' =>
    cases hn
    rw [← hv.1, ← hv.2.1]
    exact hv.2.2
  | string s m => cases hn

/-- In a valid request the members of a value are the spanned volumes and the packaged parts. -/
theorem Value.members_of_aligned (hr : r.Valid) (hv : v.Aligned r)
    (hterminal : v.isTerminal = false) :
    v.members r = .ok (r.spannedVolumes, List.range r.parts.length) := by
  cases v with
  | part i n =>
    obtain ⟨hone, rfl, -⟩ := hv
    obtain ⟨home, hhome⟩ := hr.exists_homeVolume (i := 0) (by omega)
    rw [members, hhome, Request.spannedVolumes_of_homeVolume hone hhome, hone]
    rfl
  | volume w parts n =>
    rw [members, hv.1, hv.2.1]
    rfl
  | series volumes parts n =>
    rw [members, hv.1, hv.2.1]
    rfl
  | seriesString name volumes parts n =>
    rw [members, hv.1, hv.2.1]
    rfl
  | string s m => cases hterminal

/-- A part number with a prefix: the dotted number of the volume to which the part belongs, which
is listed once. -/
inductive PartNumber.Prefixed (r : Request) (vns : VolumeNumbers) (p : PartNumber) :
    PartNumber → Prop
  | intro {part : Part} {vn : VolumeNumber} (hpart : r.parts[p.part]? = some part)
    (hvn : vn ∈ vns.numbers) (hhome : r.volumeIndex? part.volume = some vn.volume)
    (honce : ∀ other ∈ vns.numbers, other.volume = vn.volume → other = vn) :
    Prefixed r vns p ⟨p.part, vn.dotted ++ "." ++ p.text⟩

theorem VolumeNumbers.exists_find? {vns : VolumeNumbers} {home : Nat}
    (h : home ∈ vns.numbers.map (·.volume)) :
    ∃ vn ∈ vns.numbers, vns.find? home = some vn ∧ vn.volume = home := by
  cases hfind : vns.find? home with
  | none =>
    obtain ⟨vn, hvn, hvolume⟩ := List.mem_map.mp h
    have := List.find?_eq_none.mp hfind vn hvn
    simp [hvolume] at this
  | some vn =>
    exact ⟨vn, List.mem_of_find?_eq_some hfind, rfl, by simpa using List.find?_some hfind⟩

/-- One part number: its part has a home, and the home is counted. -/
theorem PartNumber.exists_prepend {vns : VolumeNumbers} {p : PartNumber} (hr : r.Valid)
    (hp : p.part < r.parts.length) (hvns : vns.numbers.map (·.volume) = r.spannedVolumes) :
    ∃ q, p.prepend r vns = .ok q ∧ p.Prefixed r vns q := by
  obtain ⟨home, hhome⟩ := hr.exists_homeVolume hp
  have hcounted : home ∈ vns.numbers.map (·.volume) := by
    rw [hvns]
    exact Request.mem_spannedVolumes_of_homeVolume hhome
  obtain ⟨vn, hvn, hfind, rfl⟩ := VolumeNumbers.exists_find? hcounted
  obtain ⟨part, hpart, hindex⟩ := Request.homeVolume_eq_ok.mp hhome
  refine ⟨⟨p.part, vn.dotted ++ "." ++ p.text⟩, ?_, .intro hpart hvn hindex ?_⟩
  · simp only [prepend, hhome, Outcome.ok_bind, hfind]
    rfl
  · intro other hother heq
    have hnodup : (vns.numbers.map (·.volume)).Nodup := hvns ▸ r.nodup_spannedVolumes
    exact List.inj_on_of_nodup_map hnodup hother hvn heq

theorem PartNumber.exists_mapM_prepend {vns : VolumeNumbers} {ps : List PartNumber} (hr : r.Valid)
    (hps : ∀ p ∈ ps, p.part < r.parts.length)
    (hvns : vns.numbers.map (·.volume) = r.spannedVolumes) :
    ∃ qs, ps.mapM (PartNumber.prepend r vns) = .ok qs ∧
      List.Forall₂ (PartNumber.Prefixed r vns) ps qs := by
  induction ps with
  | nil => exact ⟨[], rfl, .nil⟩
  | cons p ps ih =>
    obtain ⟨hp, hrest⟩ := List.forall_mem_cons.mp hps
    obtain ⟨q, hq, hprefixed⟩ := exists_prepend hr hp hvns
    obtain ⟨qs, hqs, hall⟩ := ih hrest
    refine ⟨q :: qs, ?_, .cons hprefixed hall⟩
    rw [List.mapM_cons, hq, hqs]
    rfl

/-- A value with raw numbers of both kinds has all its part numbers prefixed. -/
theorem Value.exists_prepend {n : Notes} {vns : VolumeNumbers} {ps : List PartNumber}
    (hr : r.Valid) (hv : v.Aligned r) (hn : v.notes? = some n)
    (hvns : n.volumeNumbers = .raw vns) (hps : n.partNumbers = .raw ps) :
    ∃ qs, v.mapNotesM (Notes.prependVolumeNumbers r false) =
        .ok (v.mapNotes fun n => { n with partNumbers := .raw qs }) ∧
      List.Forall₂ (PartNumber.Prefixed r vns) ps qs := by
  have haligned := v.notes_aligned hv hn
  have hlisted : ∀ p ∈ ps, p.part < r.parts.length := by
    intro p hp
    have hmem := List.mem_map_of_mem (f := (·.part)) hp
    rw [haligned.partNumbers ps hps] at hmem
    exact List.mem_range.mp hmem
  obtain ⟨qs, hqs, hall⟩ :=
    PartNumber.exists_mapM_prepend hr hlisted (haligned.volumeNumbers vns hvns)
  refine ⟨qs, (mapNotesM_eq_ok hn).mpr ⟨{ n with partNumbers := .raw qs }, ?_, ?_⟩, hall⟩
  · simp only [Notes.prependVolumeNumbers, hvns, hps, hqs]
    rfl
  · exact (mapNotes_of_notes? (f := fun n => { n with partNumbers := .raw qs }) hn).symm

/-- Reachable values stay aligned with the request: all packaged parts in order, exactly the
spanned volumes in order of first occurrence, and raw numbers for each of them. So prefixing raw
part numbers with raw volume numbers gives every one the number of its own volume. -/
theorem reached_aligned {ctx : Context} (hr : ctx.request.Valid) (h : ctx.Reaches .request v)
    (hterminal : v.isTerminal = false) :
    v.Aligned ctx.request ∧
    v.members ctx.request =
      .ok (ctx.request.spannedVolumes, List.range ctx.request.parts.length) ∧
    ∀ n vns ps, v.notes? = some n → n.volumeNumbers = .raw vns → n.partNumbers = .raw ps →
      vns.numbers.map (·.volume) = ctx.request.spannedVolumes ∧
      ps.map (·.part) = List.range ctx.request.parts.length ∧
      ∀ call : Call, call.rule = .pnPrependVn →
        ∃ qs, call.apply ctx v = .ok (v.mapNotes fun n => { n with partNumbers := .raw qs }) ∧
          List.Forall₂ (PartNumber.Prefixed ctx.request vns) ps qs := by
  have hv := h.aligned
  refine ⟨hv, v.members_of_aligned hr hv hterminal, ?_⟩
  intro n vns ps hn hvns hps
  have haligned := v.notes_aligned hv hn
  refine ⟨haligned.volumeNumbers vns hvns, haligned.partNumbers ps hps, ?_⟩
  intro call hcall
  obtain ⟨qs, hqs, hall⟩ := v.exists_prepend hr hv hn hvns hps
  refine ⟨qs, ?_, hall⟩
  have hadmits : call.rule.accepts.admits v = true := by
    simp [hcall, Rule.accepts, Accepts.admits, hterminal]
  rw [Call.apply_of_admits hadmits, Call.transform, hcall]
  exact hqs

theorem reached_aligned_reordered :
    let r : Request := ⟨⟨"S", none, none⟩, [⟨1, "A"⟩, ⟨2, "B"⟩],
      [⟨2, 1, "x"⟩, ⟨1, 3, "y"⟩, ⟨2, 2, "z"⟩], ⟨false, false⟩⟩
    let vns : VolumeNumbers := ⟨[.internal 1 2, .internal 0 1], false⟩
    let ps : List PartNumber := [⟨0, "1"⟩, ⟨1, "3"⟩, ⟨2, "2"⟩]
    let v : Value := .series [1, 0] [0, 1, 2] ⟨.raw vns, .raw ps, .raw ⟨false, false⟩⟩
    r.Valid ∧ Context.Reaches ⟨r, .title⟩ .request v ∧ v.isTerminal = false ∧
      v.Aligned r ∧ v.members r = .ok (r.spannedVolumes, List.range r.parts.length) ∧
      ∃ qs, (Call.ofRule .pnPrependVn).apply ⟨r, .title⟩ v =
          .ok (v.mapNotes fun n => { n with partNumbers := .raw qs }) ∧
        List.Forall₂ (PartNumber.Prefixed r vns) ps qs := by
  intro r vns ps v
  have hr : r.Valid := by decide
  have hseed : r.seed = .ok v := Outcome.eq_ok_of_toOption (by decide +kernel)
  have hreaches : Context.Reaches ⟨r, .title⟩ .request v := .of_seed hseed
  obtain ⟨haligned, hmembers, hprefix⟩ := reached_aligned hr hreaches rfl
  obtain ⟨-, -, happly⟩ := hprefix _ vns ps rfl rfl rfl
  exact ⟨hr, hreaches, rfl, haligned, hmembers, happly (.ofRule .pnPrependVn) rfl⟩

end ReleaseNames
