import ReleaseNames.Program
import ReleaseNames.Proofs.Home
import ReleaseNames.Proofs.Outcome

/-!
# Which titles a name depends on

Titles stand in the records of parts, of volumes and of the series. Few rules read
them, and every other rule reads of a request only how its volumes and parts are
numbered and its marker. So two requests that differ in the titles of one kind of
record get the same name from every pipeline without the rules that read that kind.
Values hold no titles before a rule has read them, so the runs go through the same
values and end with the same error, if there is one.
-/

namespace ReleaseNames

inductive RecordKind where
  | part
  | volume
  | series
deriving DecidableEq

/-- The rules that read titles of a kind of record, or anything from the record of the series. -/
def RecordKind.readers : RecordKind → List Rule
  | .part => [.pTitle, .legacyT]
  | .volume => [.vTitle, .vSplitVolume, .legacyT]
  | .series => [.sTitle, .sSlug, .vSplitVolume, .legacyT, .legacyF]

namespace Request

def Agree (r s : Request) : RecordKind → Prop
  | .part => s.parts = r.parts
  | .volume => s.volumes = r.volumes
  | .series => s.series = r.series

/-- The requests list volumes and parts with the same numbers and have the same marker. -/
structure SameNumbers (r s : Request) : Prop where
  volumes : s.volumes.map (·.number) = r.volumes.map (·.number)
  parts : s.parts.map (fun p => (p.volume, p.number)) = r.parts.map fun p => (p.volume, p.number)
  marker : s.marker = r.marker

/-- The requests differ at most in the titles of one kind of record. The record of the series may
differ altogether. -/
structure SameBut (kind : RecordKind) (r s : Request) : Prop where
  numbers : r.SameNumbers s
  others : ∀ other, other ≠ kind → r.Agree s other

theorem getElem?_cases_of_map_eq {α β : Type} {f : α → β} {xs ys : List α}
    (h : xs.map f = ys.map f) (i : Nat) :
    (xs[i]? = none ∧ ys[i]? = none) ∨ ∃ x y, xs[i]? = some x ∧ ys[i]? = some y ∧ f x = f y := by
  have hat : (xs[i]?).map f = (ys[i]?).map f := by
    rw [← List.getElem?_map, h, List.getElem?_map]
  cases hx : xs[i]? with
  | none =>
    rw [hx, Option.map_none, eq_comm, Option.map_eq_none_iff] at hat
    exact .inl ⟨rfl, hat⟩
  | some x =>
    rw [hx, Option.map_some, eq_comm, Option.map_eq_some_iff] at hat
    obtain ⟨y, hy, heq⟩ := hat
    exact .inr ⟨x, y, rfl, hy, heq.symm⟩

namespace SameNumbers

variable {r s : Request}

theorem volumeIndex? (h : r.SameNumbers s) (number : UInt32) :
    s.volumeIndex? number = r.volumeIndex? number := by
  have hindex : ∀ t : Request, t.volumeIndex? number =
      (t.volumes.map (·.number)).findIdx? (· == number) := by
    intro t
    rw [List.findIdx?_map]
    rfl
  rw [hindex, hindex, h.volumes]

theorem length_parts (h : r.SameNumbers s) : s.parts.length = r.parts.length := by
  simpa using congrArg List.length h.parts

theorem homeVolume (h : r.SameNumbers s) (i : Nat) : s.homeVolume i = r.homeVolume i := by
  rw [Request.homeVolume, Request.homeVolume, volumeOfPart, volumeOfPart]
  rcases getElem?_cases_of_map_eq h.parts i with ⟨hs, hr⟩ | ⟨q, p, hs, hr, hnumbers⟩
  · rw [hs, hr]
  · have hvolume : q.volume = p.volume := congrArg Prod.fst hnumbers
    simp only [hs, hr, hvolume, h.volumeIndex?]

theorem partNumber (h : r.SameNumbers s) (i : Nat) : s.partNumber i = r.partNumber i := by
  rw [Request.partNumber, Request.partNumber, partAt, partAt]
  rcases getElem?_cases_of_map_eq h.parts i with ⟨hs, hr⟩ | ⟨q, p, hs, hr, hnumbers⟩
  · rw [hs, hr]
  · have hnumber : q.number = p.number := congrArg Prod.snd hnumbers
    simp only [hs, hr, Outcome.ok_bind, hnumber]

theorem internalNumber (h : r.SameNumbers s) (v : Nat) :
    s.internalNumber v = r.internalNumber v := by
  rw [Request.internalNumber, Request.internalNumber, volumeAt, volumeAt]
  rcases getElem?_cases_of_map_eq h.volumes v with ⟨hs, hr⟩ | ⟨q, p, hs, hr, hnumber⟩
  · rw [hs, hr]
  · simp only [hs, hr, Outcome.ok_bind, hnumber]

theorem spannedVolumes (h : r.SameNumbers s) : s.spannedVolumes = r.spannedVolumes := by
  have hindices : ∀ t : Request, (t.parts.filterMap fun p => t.volumeIndex? p.volume) =
      (t.parts.map fun p => (p.volume, p.number)).filterMap fun n => t.volumeIndex? n.1 := by
    intro t
    rw [List.filterMap_map]
    rfl
  have hindex : s.volumeIndex? = r.volumeIndex? := funext h.volumeIndex?
  rw [Request.spannedVolumes, Request.spannedVolumes, hindices, hindices, h.parts, hindex]

/-- The requests start with the same value. -/
theorem seed (h : r.SameNumbers s) : s.seed = r.seed := by
  have hnumber : s.partNumber = r.partNumber := funext h.partNumber
  have hinternal : s.internalNumber = r.internalNumber := funext h.internalNumber
  have hlength := h.length_parts
  rw [Request.seed, Request.seed, h.spannedVolumes, h.marker, hnumber, hinternal]
  -- What is left of the parts is how many there are: none, one or more.
  match hs : s.parts, hr : r.parts with
  | [], [] => rfl
  | [_], [_] => rfl
  | _ :: _ :: ps, _ :: _ :: qs =>
    rw [hs, hr] at hlength
    simp only [hlength]
  | [], _ :: _ => simp [hs, hr] at hlength
  | _ :: _, [] => simp [hs, hr] at hlength
  | [_], _ :: _ :: _ => simp [hs, hr] at hlength
  | _ :: _ :: _, [_] => simp [hs, hr] at hlength

end SameNumbers

end Request

variable {r s : Request}

namespace Value

theorem partToVolume_congr (h : r.SameNumbers s) (v : Value) :
    v.partToVolume s = v.partToVolume r := by
  cases v with
  | part i n => rw [partToVolume, partToVolume, h.homeVolume, h.partNumber]
  | _ => rfl

theorem partToSeries_congr (h : r.SameNumbers s) (v : Value) :
    v.partToSeries s = v.partToSeries r := by
  have hinternal : s.internalNumber = r.internalNumber := funext h.internalNumber
  cases v with
  | part i n => rw [partToSeries, partToSeries, h.homeVolume, h.partNumber, hinternal]
  | _ => rfl

theorem volumeToSeries_congr (h : r.SameNumbers s) (v : Value) :
    v.volumeToSeries s = v.volumeToSeries r := by
  cases v with
  | volume v parts n => rw [volumeToSeries, volumeToSeries, h.internalNumber]
  | _ => rfl

theorem toSeries_congr (h : r.SameNumbers s) (v : Value) : v.toSeries s = v.toSeries r := by
  have hseries : (fun v : Value => v.partToSeries s) = fun v => v.partToSeries r :=
    funext (partToSeries_congr h)
  rw [toSeries, toSeries, volumeToSeries_congr h, hseries]

theorem splitVolume_congr (hvolumes : s.volumes = r.volumes) (hseries : s.series = r.series)
    (v : Value) : v.splitVolume s = v.splitVolume r := by
  cases v with
  | volume v parts n =>
    rw [splitVolume, splitVolume, Request.volumeAt, Request.volumeAt, hvolumes, hseries]
  | _ => rfl

theorem partTitle_congr (hparts : s.parts = r.parts) (v : Value) :
    v.partTitle s = v.partTitle r := by
  cases v with
  | part i n => rw [partTitle, partTitle, Request.partAt, Request.partAt, hparts]
  | _ => rfl

theorem volumeTitle_congr (hvolumes : s.volumes = r.volumes) (v : Value) :
    v.volumeTitle s = v.volumeTitle r := by
  cases v with
  | volume v parts n =>
    rw [volumeTitle, volumeTitle, Request.volumeAt, Request.volumeAt, hvolumes]
  | _ => rfl

end Value

theorem Notes.prependVolumeNumbers_congr (h : r.SameNumbers s) :
    Notes.prependVolumeNumbers s = Notes.prependVolumeNumbers r := by
  have hprepend : PartNumber.prepend s = PartNumber.prepend r := by
    funext vns p
    rw [PartNumber.prepend, PartNumber.prepend, h.homeVolume]
  funext onlyIfMultiple n
  rw [prependVolumeNumbers, prependVolumeNumbers, hprepend]

theorem Request.eq_of_agree (hmarker : s.marker = r.marker) (h : ∀ kind, r.Agree s kind) :
    s = r := by
  obtain ⟨series, volumes, parts, marker⟩ := s
  obtain rfl : series = r.series := h .series
  obtain rfl : volumes = r.volumes := h .volume
  obtain rfl : parts = r.parts := h .part
  obtain rfl : marker = r.marker := hmarker
  rfl

namespace Call

variable {call : Call}

/-- One step: a call reads the records of the kinds that its rule reads, and of the others only how
volumes and parts are numbered. -/
theorem transform_congr (h : r.SameNumbers s)
    (hread : ∀ kind : RecordKind, call.rule ∈ kind.readers → r.Agree s kind) (c : Channel)
    (v : Value) : call.transform ⟨s, c⟩ v = call.transform ⟨r, c⟩ v := by
  obtain ⟨rule, args⟩ := call
  dsimp only at hread
  -- The cases are the rules that see the request at all; the others change only the value.
  cases rule with
  | fcRmIfComplete | pnRmIfComplete => rw [transform, transform, h.marker]
  | pToVolume | pSplitPart => exact Value.partToVolume_congr h v
  | pToSeries => exact Value.partToSeries_congr h v
  | pTitle => exact Value.partTitle_congr (hread .part (by decide)) v
  | pnPrependVn | pnPrependVnIfMultiple =>
    rw [transform, transform, Notes.prependVolumeNumbers_congr h]
  | vToSeries => exact Value.volumeToSeries_congr h v
  | vSplitVolume =>
    exact Value.splitVolume_congr (hread .volume (by decide)) (hread .series (by decide)) v
  | vTitle => exact Value.volumeTitle_congr (hread .volume (by decide)) v
  | toSeries => exact Value.toSeries_congr h v
  | sTitle | sSlug | legacyF =>
    have hseries : s.series = r.series := hread .series (by decide)
    rw [transform, transform, hseries]
  | legacyT =>
    have heq : s = r := Request.eq_of_agree h.marker fun kind =>
      hread kind (by cases kind <;> decide)
    rw [heq]
  | _ => rfl

theorem apply_congr (h : r.SameNumbers s)
    (hread : ∀ kind : RecordKind, call.rule ∈ kind.readers → r.Agree s kind) (c : Channel)
    (v : Value) : call.apply ⟨s, c⟩ v = call.apply ⟨r, c⟩ v := by
  rw [apply, apply, transform_congr h hread c v]

end Call

namespace Pipeline

theorem applyAll_congr {calls : List Call} (h : r.SameNumbers s)
    (hread : ∀ call ∈ calls, ∀ kind : RecordKind, call.rule ∈ kind.readers → r.Agree s kind)
    (c : Channel) (v : Value) : applyAll ⟨s, c⟩ calls v = applyAll ⟨r, c⟩ calls v := by
  induction calls generalizing v with
  | nil => rfl
  | cons call calls ih =>
    obtain ⟨hcall, hcalls⟩ := List.forall_mem_cons.mp hread
    rw [applyAll, applyAll, Call.apply_congr h hcall]
    cases call.apply ⟨r, c⟩ v with
    | ok next => exact ih hcalls next
    | error e => rfl

/-- A run reads the records of the kinds that the rules of its steps read. -/
theorem run_congr {p : Pipeline} (h : r.SameNumbers s)
    (hread : ∀ call ∈ p.steps, ∀ kind : RecordKind, call.rule ∈ kind.readers → r.Agree s kind)
    (c : Channel) (title : Option String) : p.run ⟨s, c⟩ title = p.run ⟨r, c⟩ title := by
  have hstart : p.start ⟨s, c⟩ title = p.start ⟨r, c⟩ title := by
    rw [start.eq_def, start.eq_def, h.seed]
  rw [run, run, hstart]
  cases p.start ⟨r, c⟩ title with
  | ok first =>
    dsimp only
    rw [applyAll_congr h hread]
  | error e => rfl

end Pipeline

/-- A pipeline without the rules that read a kind of record gives two requests that differ only in
the titles of that kind, or only in the record of the series, the same name or the same error. -/
theorem run_eq_of_sameBut (kind : RecordKind) (p : Pipeline) (c : Channel) (title : Option String)
    (r s : Request) (hrules : ∀ call ∈ p.steps, call.rule ∉ kind.readers)
    (h : r.SameBut kind s) : p.run ⟨s, c⟩ title = p.run ⟨r, c⟩ title := by
  refine Pipeline.run_congr h.numbers (fun call hcall other hother => h.others other ?_) c title
  rintro rfl
  exact hrules call hcall hother

theorem run_eq_of_sameBut_split :
    let r : Request := ⟨⟨"S", none, none⟩, [⟨7, "S: Part 2 Volume 1"⟩], [⟨7, 3, "P"⟩],
      ⟨true, false⟩⟩
    let s : Request := ⟨⟨"S", none, none⟩, [⟨7, "S: Part 2 Volume 1"⟩], [⟨7, 3, "Q"⟩],
      ⟨true, false⟩⟩
    let p : Pipeline := ⟨.request, [.ofRule .pSplitPart, .ofRule .vSplitVolume, .ofRule .vnFull,
      .ofRule .pnFull, .ofRule .fcShort, .ofRule .sTitle, .ofRule .toString]⟩
    (∀ call ∈ p.steps, call.rule ∉ RecordKind.part.readers) ∧ r.SameBut .part s ∧
      p.run ⟨r, .title⟩ none = .ok "S Part 2 Volume 1 Part 3 [F]" ∧
        p.run ⟨s, .title⟩ none = p.run ⟨r, .title⟩ none := by
  intro r s p
  have hrules : ∀ call ∈ p.steps, call.rule ∉ RecordKind.part.readers := by decide
  have hsame : r.SameBut .part s := by
    refine ⟨⟨rfl, rfl, rfl⟩, fun other hother => ?_⟩
    cases other with
    | part => exact absurd rfl hother
    | volume => rfl
    | series => rfl
  exact ⟨hrules, hsame, Outcome.eq_ok_of_toOption (by decide +kernel),
    run_eq_of_sameBut .part p .title none r s hrules hsame⟩

end ReleaseNames
