import ReleaseNames.Library
import ReleaseNames.Payload.Record
import ReleaseNames.Proofs.JsonReading
import ReleaseNames.Proofs.Spelling

/-!
# What a library receives is the request

The payload is the compact text of the tree of a request, for any texts in its
fields. So it has no control character and no zero byte, a call of a library
cannot fail on its way in, and reading the payload gives the request back.
-/

namespace ReleaseNames

/-! ## Bytes of a text -/

namespace Text

theorem toList_loop (bytes : ByteArray) (i : Nat) (read : List UInt8) :
    ByteArray.toList.loop bytes i read = read.reverse ++ bytes.data.toList.drop i := by
  fun_induction ByteArray.toList.loop with
  | case1 i read h ih =>
    have hsize : i < bytes.data.toList.length := h
    have hget : bytes.get! i = bytes.data.toList[i] := getElem!_pos bytes.data i h
    rw [ih, List.reverse_cons, List.append_assoc, List.singleton_append, hget,
      List.getElem_cons_drop]
  | case2 i read h =>
    have hsize : bytes.data.toList.length ≤ i := Nat.le_of_not_lt h
    rw [List.drop_eq_nil_of_le hsize, List.append_nil]

theorem toList_toUTF8 (s : String) : s.toUTF8.toList = s.toList.flatMap String.utf8EncodeChar := by
  have hbytes := String.toByteArray_ofList (l := s.toList)
  rw [String.ofList_toList] at hbytes
  rw [String.toUTF8_eq_toByteArray, hbytes, List.utf8Encode, ByteArray.toList, toList_loop,
    List.data_toByteArray]
  rfl

/-- Only the zero character is encoded with a zero byte. -/
theorem eq_zero_of_zero_mem {c : Char} (h : 0 ∈ String.utf8EncodeChar c) : c = '\x00' := by
  have hval : c.val.toNat = c.toNat := rfl
  simp only [String.utf8EncodeChar, hval] at h
  split_ifs at h with hone htwo hthree
  · have hzero : c.toNat = 0 := by
      simp [← UInt8.toNat_inj] at h
      omega
    exact Char.toNat_inj.mp hzero
  all_goals
    simp only [List.mem_cons, List.not_mem_nil, or_false, ← UInt8.toNat_inj] at h
    simp at h
    omega

theorem zero_not_mem_toUTF8 {s : String} (h : '\x00' ∉ s.toList) : 0 ∉ s.toUTF8.toList := by
  rw [toList_toUTF8]
  intro hzero
  obtain ⟨c, hc, hbyte⟩ := List.mem_flatMap.mp hzero
  exact h (eq_zero_of_zero_mem hbyte ▸ hc)

end Text

/-- A call fails on the way in only if the payload has a zero byte. -/
theorem Library.call_ne_zeroByte {payload : String} (h : 0 ∉ payload.toUTF8.toList)
    (channel : Channel) (f : NameFunction) (index : Nat) :
    Library.call channel f payload ≠ .error (.zeroByte index) := by
  have hnone : payload.toUTF8.toList.findIdx? (· == 0) = none :=
    List.findIdx?_eq_none_iff.mpr fun b hb => beq_false_of_ne (ne_of_mem_of_not_mem hb h)
  unfold Library.call
  simp only [hnone]
  split
  · simp
  · split <;> simp

/-! ## Records -/

theorem mapM_map_eq_some {α β γ : Type} {f : β → Option γ} {g : α → β} {k : α → γ} {xs : List α}
    (h : ∀ x ∈ xs, f (g x) = some (k x)) : (xs.map g).mapM f = some (xs.map k) := by
  induction xs with
  | nil => rfl
  | cons x xs ih =>
    obtain ⟨hx, hxs⟩ := List.forall_mem_cons.mp h
    rw [List.map_cons, List.mapM_cons, hx, ih hxs]
    rfl

namespace Json

variable {members : List (String × Json)} {m : String × Json}

theorem filter_name (hnames : (members.map (·.1)).Nodup) (hm : m ∈ members) :
    (members.filter fun n => n.1 == m.1) = [m] := by
  induction members with
  | nil => cases hm
  | cons n members ih =>
    rw [List.map_cons, List.nodup_cons] at hnames
    obtain rfl | hm := List.mem_cons.mp hm
    · have hothers : members.filter (fun n => n.1 == m.1) = [] := by
        refine List.filter_eq_nil_iff.mpr fun n hn heq => hnames.1 ?_
        exact List.mem_map.mpr ⟨n, hn, beq_iff_eq.mp heq⟩
      rw [List.filter_cons_of_pos (by simp), hothers]
    · have hne : n.1 ≠ m.1 := fun heq => hnames.1 (heq ▸ List.mem_map_of_mem hm)
      rw [List.filter_cons_of_neg (by simpa using hne), ih hnames.2 hm]

theorem member?_eq_some (hnames : (members.map (·.1)).Nodup) (hm : m ∈ members) :
    member? members m.1 = some (some m.2) := by
  rw [member?, filter_name hnames hm]

/-- A record is read from the object that lists its members. -/
theorem fields?_object {names : List String} (h : names = members.map (·.1))
    (hnames : names.Nodup) :
    (Json.object members).fields? names = some (members.map fun m => some m.2) := by
  subst h
  exact mapM_map_eq_some fun m hm => member?_eq_some hnames hm

theorem asWord?_ofWord (n : UInt32) : (ofWord n).asWord? = some n := by
  have hdigits := Lexer.isDigit_toDigits n.toNat
  have hvalue : Nat.ofDigitChars 10 (Numeral.ofNat n.toNat).text 0 = n.toNat :=
    Nat.ofDigitChars_ten_toDigits
  have hall : (Numeral.ofNat n.toNat).text.all Char.isDigit = true := hdigits
  have hsize := n.toNat_lt_size
  simp [ofWord, asWord?, hvalue, hall, hsize]

theorem asTextOrNone?_ofText? (s : Option String) : asTextOrNone? (some (ofText? s)) = some s := by
  cases s <;> rfl

theorem asList?_array {α : Type} {read : Json → Option α} {write : α → Json}
    (h : ∀ x, read (write x) = some x) (xs : List α) :
    (Json.array (xs.map write)).asList? read = some xs := by
  have hread := mapM_map_eq_some (k := id) fun x (_ : x ∈ xs) => h x
  rwa [List.map_id] at hread

end Json

theorem Series.ofJson?_toJson (s : Series) : Series.ofJson? s.toJson = some s := by
  rw [Series.ofJson?, Series.toJson, Json.fields?_object]
  · simp [Json.asText?, Json.asTextOrNone?_ofText?]
  · rfl
  · decide

theorem Volume.ofJson?_toJson (v : Volume) : Volume.ofJson? v.toJson = some v := by
  rw [Volume.ofJson?, Volume.toJson, Json.fields?_object]
  · simp [Json.asText?, Json.asWord?_ofWord]
  · rfl
  · decide

theorem Part.ofJson?_toJson (p : Part) : Part.ofJson? p.toJson = some p := by
  rw [Part.ofJson?, Part.toJson, Json.fields?_object]
  · simp [Json.asText?, Json.asWord?_ofWord]
  · rfl
  · decide

theorem Marker.ofJson?_toJson (m : Marker) : Marker.ofJson? m.toJson = some m := by
  rw [Marker.ofJson?, Marker.toJson, Json.fields?_object]
  · simp [Json.asTruth?]
  · rfl
  · decide

namespace Request

theorem ofJson?_toJson (r : Request) : ofJson? r.toJson = some r := by
  rw [ofJson?, toJson, Json.fields?_object]
  · simp [Series.ofJson?_toJson, Marker.ofJson?_toJson, Json.asList?_array Volume.ofJson?_toJson,
      Json.asList?_array Part.ofJson?_toJson]
  · rfl
  · decide

/-- The JSON text of a request gives it back. -/
theorem decode?_encode (r : Request) : decode? r.encode = some r := by
  rw [decode?, encode, String.toList_ofList, Json.read?_compact]
  exact ofJson?_toJson r

theorem encode_injective : Function.Injective encode := by
  intro r s h
  have hdecoded := congrArg decode? h
  rw [decode?_encode, decode?_encode] at hdecoded
  exact Option.some.inj hdecoded

theorem isPrinted_encode (r : Request) : Json.isPrinted r.encode.toList = true := by
  rw [encode, String.toList_ofList, Json.isPrinted_compact]

/-- No character of a request, not even a zero character, becomes a zero byte of its text. -/
theorem zero_not_mem_encode (r : Request) : 0 ∉ r.encode.toUTF8.toList := by
  refine Text.zero_not_mem_toUTF8 fun hzero => ?_
  exact absurd (List.all_eq_true.mp r.isPrinted_encode _ hzero) (by decide)

end Request

/-! ## The payload -/

namespace Payload

theorem compact_ofText? (s : Option String) : (Json.ofText? s).compact = quoted? s := by
  cases s <;> rfl

theorem compact_series (s : Series) : s.toJson.compact = ofSeries s := by
  simp only [Series.toJson, Json.compact, Json.compactMembers, ofSeries, compact_ofText?]

theorem compact_marker (m : Marker) : m.toJson.compact = ofMarker m := rfl

/-- What a library receives, from the four fields, is the text of the request that has them. -/
theorem text_eq_encode (series : Series) (volumes : List Volume) (parts : List Part) (m : Marker) :
    text series volumes parts m = Request.encode ⟨series, volumes, parts, m⟩ := by
  have hvolumes : (volumes.map Volume.toJson).map Json.compact = volumes.map ofVolume := by
    rw [List.map_map]
    rfl
  have hparts : (parts.map Part.toJson).map Json.compact = parts.map ofPart := by
    rw [List.map_map]
    rfl
  simp only [text, Request.encode, Request.toJson, Json.compact, Json.compactMembers,
    Json.compactItems_eq_map, compact_series, compact_marker, hvolumes, hparts]

end Payload

/-- The payload is the JSON text of the request, without control characters and zero bytes, so
that no call fails on its way in. It gives the request back, and no other request has it. -/
theorem payload_carries_request (series : Series) (volumes : List Volume) (parts : List Part)
    (m : Marker) :
    Payload.text series volumes parts m = Request.encode ⟨series, volumes, parts, m⟩ ∧
      ((Payload.text series volumes parts m).toList.all fun c => 0x20 ≤ c.toNat) = true ∧
      0 ∉ (Payload.text series volumes parts m).toUTF8.toList ∧
      (∀ channel f index, Library.call channel f (Payload.text series volumes parts m) ≠
        .error (.zeroByte index)) ∧
      Request.decode? (Payload.text series volumes parts m) = some ⟨series, volumes, parts, m⟩ ∧
      ∀ r : Request, Payload.text r.series r.volumes r.parts r.marker =
        Payload.text series volumes parts m ↔ r = ⟨series, volumes, parts, m⟩ := by
  rw [Payload.text_eq_encode series volumes parts m]
  have hprinted := Request.isPrinted_encode ⟨series, volumes, parts, m⟩
  have hzero := Request.zero_not_mem_encode ⟨series, volumes, parts, m⟩
  refine ⟨rfl, hprinted, hzero, fun channel f index => ?_, Request.decode?_encode _, fun r => ?_⟩
  · exact Library.call_ne_zeroByte hzero channel f index
  · rw [Payload.text_eq_encode]
    exact Request.encode_injective.eq_iff

end ReleaseNames
