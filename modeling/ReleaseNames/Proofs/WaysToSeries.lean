import ReleaseNames.Program
import ReleaseNames.Proofs.Writing

/-!
# Ways to the series

A part or a volume can be moved to the series in one step, or over the volume, or with a
step behind that finds nothing left to do. The steps look up the same records in another
order and number the series in two places. They still agree on every value that is not a
string, and where a part has no home they fail with the same error, since its home is
what each of them looks up first.
-/

namespace ReleaseNames

variable {r : Request} {ctx : Context} {v w : Value}

/-- The volumes and parts that a value refers to are in the request. -/
def Value.Within (r : Request) : Value → Prop
  | .part i _ => i < r.parts.length
  | .volume v parts _ => v < r.volumes.length ∧ ∀ i ∈ parts, i < r.parts.length
  | .series volumes parts _ =>
    (∀ v ∈ volumes, v < r.volumes.length) ∧ ∀ i ∈ parts, i < r.parts.length
  | .seriesString _ volumes parts _ =>
    (∀ v ∈ volumes, v < r.volumes.length) ∧ ∀ i ∈ parts, i < r.parts.length
  | .string .. => True

/-- The series of a value. A part is numbered, and so is its home; a volume is numbered, and what is
noted about its parts stays; what is a series already stays as it is. -/
inductive Value.InSeries (r : Request) : Value → Value → Prop
  | part {i v : Nat} {p : Part} {volume : Volume} (n : Notes) (hp : r.parts[i]? = some p)
    (hhome : r.volumeIndex? p.volume = some v) (hvolume : r.volumes[v]? = some volume) :
    InSeries r (.part i n) (.series [v] [i] ⟨.raw ⟨[.internal v volume.number], false⟩,
      .raw [⟨i, toString p.number.toNat⟩], n.marker⟩)
  | volume {v : Nat} {volume : Volume} (parts : List Nat) (n : Notes)
    (hvolume : r.volumes[v]? = some volume) :
    InSeries r (.volume v parts n) (.series [v] parts
      ⟨.raw ⟨[.internal v volume.number], false⟩, n.partNumbers, n.marker⟩)
  | series (volumes parts : List Nat) (n : Notes) :
    InSeries r (.series volumes parts n) (.series volumes parts n)
  | seriesString (name : String) (volumes parts : List Nat) (n : Notes) :
    InSeries r (.seriesString name volumes parts n) (.seriesString name volumes parts n)

namespace Request

variable {i : Nat}

/-- The home of a part is looked up before anything else, and whatever else is looked up is there
if the home is. -/
theorem exists_of_homeVolume {home : Nat} (h : r.homeVolume i = .ok home) :
    (∃ number, r.partNumber i = .ok number) ∧ ∃ number, r.internalNumber home = .ok number := by
  obtain ⟨p, hp, hhome⟩ := homeVolume_eq_ok.mp h
  exact ⟨⟨_, partNumber_eq_ok.mpr ⟨p, hp, rfl⟩⟩,
    exists_internalNumber (mem_spannedVolumes_of_homeVolume h)⟩

end Request

namespace Value

theorem toSeries_part (i : Nat) (n : Notes) :
    (part i n).toSeries r = (part i n).partToSeries r := rfl

theorem toSeries_volume (v : Nat) (parts : List Nat) (n : Notes) :
    (volume v parts n).toSeries r = (volume v parts n).volumeToSeries r := by
  rw [toSeries]
  cases h : (volume v parts n).volumeToSeries r with
  | error e => rfl
  | ok w =>
    obtain ⟨number, -, hw⟩ := Outcome.bind_eq_ok.mp h
    cases hw
    rfl

/-- The way over the volume numbers the part first and the volume then. -/
theorem volumeToSeries_of_partToVolume (v : Value) :
    (v.partToVolume r >>= volumeToSeries r) = v.toSeries r := by
  cases v with
  | part i n =>
    rw [toSeries_part, partToVolume, partToSeries]
    cases hhome : r.homeVolume i with
    | error e => rfl
    | ok home =>
      -- The two ways number part and volume in a different order, which shows only if one fails.
      obtain ⟨⟨number, hnumber⟩, volumeNumber, hvolume⟩ := Request.exists_of_homeVolume hhome
      simp only [Outcome.ok_bind, hnumber, hvolume, Outcome.pure_eq_ok, volumeToSeries,
        numberedSeries]
  | volume v parts n => exact (toSeries_volume v parts n).symm
  | _ => rfl

theorem volumeToSeries_of_partToSeries (v : Value) :
    (v.partToSeries r >>= volumeToSeries r) = v.toSeries r := by
  cases v with
  | part i n =>
    rw [toSeries_part]
    cases h : (part i n).partToSeries r with
    | error e => rfl
    | ok w =>
      obtain ⟨home, -, h⟩ := Outcome.bind_eq_ok.mp h
      obtain ⟨volumeNumber, -, h⟩ := Outcome.bind_eq_ok.mp h
      obtain ⟨number, -, h⟩ := Outcome.bind_eq_ok.mp h
      cases h
      rfl
  | volume v parts n => exact (toSeries_volume v parts n).symm
  | _ => rfl

/-- The direct way succeeds exactly if the value has a series, and with that. -/
theorem toSeries_eq_ok_iff (hv : v.isTerminal = false) :
    v.toSeries r = .ok w ↔ v.InSeries r w := by
  constructor
  · intro h
    cases v with
    | part i n =>
      rw [toSeries_part] at h
      obtain ⟨home, hhome, h⟩ := Outcome.bind_eq_ok.mp h
      obtain ⟨volumeNumber, hvolume, h⟩ := Outcome.bind_eq_ok.mp h
      obtain ⟨number, hnumber, h⟩ := Outcome.bind_eq_ok.mp h
      obtain ⟨p, hp, hindex⟩ := Request.homeVolume_eq_ok.mp hhome
      obtain ⟨volume, hlisted, rfl⟩ := Request.internalNumber_eq_ok.mp hvolume
      obtain ⟨q, hq, rfl⟩ := Request.partNumber_eq_ok.mp hnumber
      obtain rfl : p = q := Option.some.inj (hp.symm.trans hq)
      cases h
      exact .part n hp hindex hlisted
    | volume v parts n =>
      rw [toSeries_volume] at h
      obtain ⟨number, hnumber, h⟩ := Outcome.bind_eq_ok.mp h
      obtain ⟨volume, hlisted, rfl⟩ := Request.internalNumber_eq_ok.mp hnumber
      cases h
      exact .volume parts n hlisted
    | series volumes parts n =>
      cases h
      exact .series volumes parts n
    | seriesString name volumes parts n =>
      cases h
      exact .seriesString name volumes parts n
    | string s m => cases hv
  · intro h
    cases h with
    | @part i v p volume n hp hhome hvolume =>
      rw [toSeries_part, partToSeries, Request.homeVolume_eq_ok.mpr ⟨p, hp, hhome⟩,
        Outcome.ok_bind, Request.internalNumber_eq_ok.mpr ⟨volume, hvolume, rfl⟩, Outcome.ok_bind,
        Request.partNumber_eq_ok.mpr ⟨p, hp, rfl⟩]
      rfl
    | @volume v volume parts n hvolume =>
      rw [toSeries_volume, volumeToSeries,
        Request.internalNumber_eq_ok.mpr ⟨volume, hvolume, rfl⟩]
      rfl
    | series volumes parts n => rfl
    | seriesString name volumes parts n => rfl

/-- A value within the request has a series, unless it is a part without a home. -/
theorem exists_inSeries (hv : v.isTerminal = false) (hwithin : v.Within r) :
    (∃ w, v.InSeries r w) ∨ ∃ i n p, v = .part i n ∧ r.parts[i]? = some p ∧
      r.volumeIndex? p.volume = none := by
  cases v with
  | part i n =>
    have hp := List.getElem?_eq_getElem hwithin
    cases hhome : r.volumeIndex? r.parts[i].volume with
    | none => exact .inr ⟨i, n, _, rfl, hp, hhome⟩
    | some home =>
      obtain ⟨volume, hvolume, -⟩ := Request.getElem?_of_volumeIndex? hhome
      exact .inl ⟨_, .part n hp hhome hvolume⟩
  | volume v parts n =>
    exact .inl ⟨_, .volume parts n (List.getElem?_eq_getElem hwithin.1)⟩
  | series volumes parts n => exact .inl ⟨_, .series volumes parts n⟩
  | seriesString name volumes parts n => exact .inl ⟨_, .seriesString name volumes parts n⟩
  | string s m => cases hv

theorem toSeries_of_stray {i : Nat} {n : Notes} {p : Part} (hp : r.parts[i]? = some p)
    (hstray : r.volumeIndex? p.volume = none) :
    (part i n).toSeries r = .error (.request (.strayPart i)) := by
  have hhome : r.homeVolume i = .error (.request (.strayPart i)) := by
    rw [Request.homeVolume, Request.volumeOfPart, hp]
    simp only [hstray]
  rw [toSeries_part, partToSeries, hhome]
  rfl

namespace InSeries

theorem stage (h : v.InSeries r w) : w.stage = .series ∨ v.stage = .seriesString ∧ w = v := by
  cases h with
  | seriesString => exact .inr ⟨rfl, rfl⟩
  | _ => exact .inl rfl

theorem marker (h : v.InSeries r w) : w.notes?.map (·.marker) = v.notes?.map (·.marker) := by
  cases h <;> rfl

theorem partNumbers (h : v.InSeries r w) (hv : v.stage = .volume) :
    w.notes?.map (·.partNumbers) = v.notes?.map (·.partNumbers) := by
  cases h with
  | volume => rfl
  | _ => cases hv

end InSeries

end Value

namespace Pipeline

/-- A first step that makes no string and a second one to the series. -/
theorem applyAll_vToSeries {rule : Rule} (haccepts : rule.accepts = .structured)
    (hending : rule ∉ Call.ending) (hv : v.isTerminal = false) :
    applyAll ctx [.ofRule rule, .ofRule .vToSeries] v =
      ((Call.ofRule rule).transform ctx v >>= Value.volumeToSeries ctx.request) := by
  rw [applyAll, Call.apply_ofRule haccepts hv]
  cases hmove : (Call.ofRule rule).transform ctx v with
  | error e => rfl
  | ok w =>
    have hw : w.isTerminal = false := (Call.isTerminal_of_transform hending hmove).trans hv
    have hlast : Call.apply (.ofRule .vToSeries) ctx w = w.volumeToSeries ctx.request :=
      Call.apply_ofRule rfl hw
    simp only [applyAll, hlast, Outcome.ok_bind]
    cases w.volumeToSeries ctx.request <;> rfl

end Pipeline

/-- Every way takes a value that is not a string to the same series, or fails with the same error. A
value within the request has a series, unless it is a part without a listed volume, and in a valid
request there is no such part. -/
theorem ways_to_series_agree {ctx : Context} {v : Value} (hv : v.isTerminal = false) :
    (∀ rule ∈ [Rule.pToVolume, .pSplitPart, .pToSeries],
      Pipeline.applyAll ctx [.ofRule rule, .ofRule .vToSeries] v =
        Call.apply (.ofRule .toSeries) ctx v) ∧
    (v.Within ctx.request →
      (∃ w, Call.apply (.ofRule .toSeries) ctx v = .ok w ∧ v.InSeries ctx.request w) ∨
        ∃ i n p, v = .part i n ∧ ctx.request.parts[i]? = some p ∧
          ctx.request.volumeIndex? p.volume = none ∧
            Call.apply (.ofRule .toSeries) ctx v = .error (.request (.strayPart i))) ∧
    (ctx.request.Valid → v.Within ctx.request →
      ∃ w, Call.apply (.ofRule .toSeries) ctx v = .ok w ∧
        (w.stage = .series ∨ v.stage = .seriesString ∧ w = v) ∧
        w.notes?.map (·.marker) = v.notes?.map (·.marker) ∧
        (v.stage = .volume → w.notes?.map (·.partNumbers) = v.notes?.map (·.partNumbers))) := by
  have hdirect : Call.apply (.ofRule .toSeries) ctx v = v.toSeries ctx.request :=
    Call.apply_ofRule rfl hv
  rw [hdirect]
  have hresult : v.Within ctx.request →
      (∃ w, v.toSeries ctx.request = .ok w ∧ v.InSeries ctx.request w) ∨
        ∃ i n p, v = .part i n ∧ ctx.request.parts[i]? = some p ∧
          ctx.request.volumeIndex? p.volume = none ∧
            v.toSeries ctx.request = .error (.request (.strayPart i)) := by
    intro hwithin
    rcases v.exists_inSeries hv hwithin with ⟨w, hw⟩ | ⟨i, n, p, rfl, hp, hstray⟩
    · exact .inl ⟨w, (Value.toSeries_eq_ok_iff hv).mpr hw, hw⟩
    · exact .inr ⟨i, n, p, rfl, hp, hstray, Value.toSeries_of_stray hp hstray⟩
  refine ⟨?_, hresult, ?_⟩
  · intro rule hrule
    simp only [List.mem_cons, List.not_mem_nil, or_false] at hrule
    rcases hrule with rfl | rfl | rfl
    · exact (Pipeline.applyAll_vToSeries rfl (by decide) hv).trans
        v.volumeToSeries_of_partToVolume
    · exact (Pipeline.applyAll_vToSeries rfl (by decide) hv).trans
        v.volumeToSeries_of_partToVolume
    · exact (Pipeline.applyAll_vToSeries rfl (by decide) hv).trans
        v.volumeToSeries_of_partToSeries
  · intro hr hwithin
    rcases hresult hwithin with ⟨w, hw, hseries⟩ | ⟨i, n, p, rfl, hp, hstray, -⟩
    · exact ⟨w, hw, hseries.stage, hseries.marker, hseries.partNumbers⟩
    · have hlisted := (Request.valid_iff.mp hr).2.2 p (List.mem_of_getElem? hp)
      rw [hstray] at hlisted
      cases hlisted

/-- A part whose notes are all rendered: its numbers are made anew and the marker stays. -/
theorem ways_to_series_agree_rendered :
    let r : Request := ⟨⟨"S", none, none⟩, [⟨3, "S 3"⟩, ⟨1, "S 1"⟩], [⟨3, 1, "P"⟩, ⟨1, 2, "Q"⟩],
      ⟨true, false⟩⟩
    let v : Value := .part 1 ⟨.rendered "Volume 9", .rendered "Part 9", .rendered "[F]"⟩
    let w : Value := .series [1] [1]
      ⟨.raw ⟨[.internal 1 1], false⟩, .raw [⟨1, "2"⟩], .rendered "[F]"⟩
    v.isTerminal = false ∧ r.Valid ∧ v.Within r ∧
      Call.apply (.ofRule .toSeries) ⟨r, .title⟩ v = .ok w ∧
        ∀ rule ∈ [Rule.pToVolume, .pSplitPart, .pToSeries],
          Pipeline.applyAll ⟨r, .title⟩ [.ofRule rule, .ofRule .vToSeries] v = .ok w := by
  intro r v w
  have hv : v.isTerminal = false := rfl
  have hwithin : v.Within r := by
    change 1 < r.parts.length
    decide
  have hdirect : Call.apply (.ofRule .toSeries) ⟨r, .title⟩ v = .ok w :=
    Outcome.eq_ok_of_toOption (by decide +kernel)
  obtain ⟨hways, -, -⟩ := @ways_to_series_agree ⟨r, .title⟩ v hv
  exact ⟨hv, by decide, hwithin, hdirect, fun rule hrule => (hways rule hrule).trans hdirect⟩

end ReleaseNames
