import Dsquic.Wire.Reads
import Dsquic.Wire.TransportParameters

/-!
Transport parameters are decoded as they were encoded.
-/

namespace Dsquic.Wire

open Lib Buffer

namespace TransportParameters

def intBytes (value : ℕ) : Bytes := (encodeVarint value).toOption.getD []

lemma encodeVarint_intBytes {value : ℕ} (h : value ≤ varintMax) : encodeVarint value = .ok (intBytes value) := by
  obtain ⟨data, hdata⟩ := encodeVarint_isOk h
  rw [intBytes, hdata]
  rfl

lemma run_intBytes {value : ℕ} (h : value ≤ varintMax) : pullVarint.run (intBytes value) = .ok value :=
  (reads_pullVarint (encodeVarint_intBytes h) []).run_eq_ok

lemma intBytes_ne_nil {value : ℕ} (h : value ≤ varintMax) : intBytes value ≠ [] := by
  intro hnil
  have hlength := length_encodeVarint (encodeVarint_intBytes h)
  rw [hnil] at hlength
  exact absurd hlength (varintLength_pos value).ne

variable {parameterId value : ℕ} {data : Bytes}

lemma le_varintMax_of_encodeInt (h : encodeInt parameterId value = .ok data) :
    value ≤ varintMax := by
  obtain ⟨bytes, hbytes, -⟩ := bind_eq_ok.1 h
  exact le_varintMax_of_encodeVarint hbytes

lemma encodeInt_eq (h : value ≤ varintMax) :
    encodeInt parameterId value = encodeBytes parameterId (intBytes value) := by
  rw [encodeInt, encodeVarint_intBytes h]
  rfl

def putSome (values : Dict ℕ Bytes) (entry : ℕ × Option Bytes) : Dict ℕ Bytes :=
  match entry.2 with
  | none => values
  | some value => values.set entry.1 value

lemma get?_putSome (values : Dict ℕ Bytes) (entry : ℕ × Option Bytes) (i : ℕ) :
    (putSome values entry).get? i = if i = entry.1 then entry.2.or (values.get? i) else values.get? i := by
  obtain ⟨parameterId, value⟩ := entry
  cases value with
  | none => simp [putSome]
  | some value => simp [putSome]

def Spells (data : Bytes) (parameterId : ℕ) (value : Bytes) : Prop :=
  ∃ identifier length, (∀ rest, pullVarint.Reads identifier rest parameterId) ∧
    (∀ rest, pullVarint.Reads length rest value.length) ∧ data = identifier ++ (length ++ value)

lemma spells_encodeBytes {parameterId : ℕ} {value data : Bytes} (h : encodeBytes parameterId value = .ok data) :
    Spells data parameterId value := by
  simp only [encodeBytes, concatEncoded_cons_ok, concatEncoded_singleton, Except.ok.injEq] at h
  obtain ⟨identifier, _, hidentifier, ⟨length, _, hlength, rfl, rfl⟩, rfl⟩ := h
  exact ⟨identifier, length, reads_pullVarint hidentifier, reads_pullVarint hlength, rfl⟩

lemma ne_nil_of_reads_pullVarint {value : ℕ} (h : pullVarint.Reads data [] value) : data ≠ [] := by
  rintro rfl
  have hread := h 0
  simp [pullVarint, pullUint8, ensures_bind, ensures_pullBytes, Buffer.remaining] at hread

lemma Spells.length_pos {parameterId : ℕ} {value data : Bytes} (h : Spells data parameterId value) :
    0 < data.length := by
  obtain ⟨identifier, length, hidentifier, -, rfl⟩ := h
  have hpos := List.length_pos_of_ne_nil (ne_nil_of_reads_pullVarint (hidentifier []))
  rw [List.length_append]
  omega

variable {values : Dict ℕ Bytes}

lemma pullValues_step {parameterId rounds position : ℕ} {value data rest : Bytes}
    {Q : Dict ℕ Bytes → Buffer → Prop} {E : Raised → Buffer → Prop} (h : Spells data parameterId value)
    (hnext : Ensures (pullValues rounds (values.set parameterId value)) ⟨rest, position + data.length⟩ Q E) :
    Ensures (pullValues (rounds + 1) values) ⟨data ++ rest, position⟩ Q E := by
  have hfull : (⟨data ++ rest, position⟩ : Buffer).isEmpty = false := by
    have hpos := h.length_pos
    cases data with
    | nil => cases hpos
    | cons first others => rfl
  obtain ⟨identifier, length, hidentifier, hlength, rfl⟩ := h
  simp only [pullValues, ensures_state, hfull, Bool.false_eq_true, if_false]
  rw [List.append_assoc, List.append_assoc]
  apply (hidentifier _).ensures
  apply (hlength _).ensures
  apply (reads_pullBytes value rest).ensures
  rwa [Nat.add_assoc, Nat.add_assoc, ← List.length_append, ← List.length_append]

structure Parameter where
  parameterId : ℕ
  value : Bytes
  bytes : Bytes
  spelled : Spells bytes parameterId value

namespace Parameter

def entry (parameter : Parameter) : ℕ × Bytes := (parameter.parameterId, parameter.value)

def collect (values : Dict ℕ Bytes) (entries : List (ℕ × Bytes)) : Dict ℕ Bytes :=
  entries.foldl (fun values entry => values.set entry.1 entry.2) values

lemma pullValues_flatMap (parameters : List Parameter) {rounds position : ℕ} (values : Dict ℕ Bytes)
    (hrounds : (parameters.flatMap bytes).length ≤ rounds) :
    Ensures (pullValues rounds values) ⟨parameters.flatMap bytes, position⟩
      (fun values' _ => values' = collect values (parameters.map entry)) fun _ _ => False := by
  induction parameters generalizing rounds position values with
  | nil => cases rounds <;> simp [pullValues, Buffer.isEmpty, collect]
  | cons parameter parameters ih =>
    have hpos := parameter.spelled.length_pos
    rw [List.flatMap_cons, List.length_append] at hrounds
    obtain ⟨rounds, rfl⟩ : ∃ fewer, rounds = fewer + 1 := ⟨rounds - 1, by omega⟩
    rw [List.flatMap_cons]
    exact pullValues_step parameter.spelled (ih _ (by omega))

end Parameter

def present (entries : List (ℕ × Option Bytes)) : List (ℕ × Bytes) :=
  entries.filterMap fun entry => entry.2.map (Prod.mk entry.1)

lemma collect_present (entries : List (ℕ × Option Bytes)) (values : Dict ℕ Bytes) :
    Parameter.collect values (present entries) = entries.foldl putSome values := by
  induction entries generalizing values with
  | nil => rfl
  | cons entry entries ih =>
    obtain ⟨parameterId, value⟩ := entry
    cases value with
    | none => exact ih values
    | some value => exact ih (values.set parameterId value)

lemma exists_parameters {entries : List (ℕ × Option Bytes)}
    (h : concatEncoded (entries.map fun entry => encodeIfSome encodeBytes entry.1 entry.2) = .ok data) :
    ∃ parameters : List Parameter, data = parameters.flatMap Parameter.bytes ∧
      parameters.map Parameter.entry = present entries := by
  induction entries generalizing data with
  | nil =>
    cases h
    exact ⟨[], rfl, rfl⟩
  | cons entry entries ih =>
    obtain ⟨first, others, hfirst, hothers, rfl⟩ := concatEncoded_cons_ok.1 h
    obtain ⟨parameters, rfl, hparameters⟩ := ih hothers
    obtain ⟨parameterId, value⟩ := entry
    cases value with
    | none =>
      cases hfirst
      exact ⟨parameters, rfl, hparameters⟩
    | some value =>
      refine ⟨⟨parameterId, value, first, spells_encodeBytes hfirst⟩ :: parameters, rfl, ?_⟩
      rw [List.map_cons, hparameters]
      rfl

def connectionIds (p : TransportParameters) : List (ℕ × Option Bytes) :=
  [(0x00, p.originalDestinationConnectionId), (0x10, p.retrySourceConnectionId),
    (0x0F, p.initialSourceConnectionId)]

def integers (p : TransportParameters) : List (ℕ × ℕ) :=
  [(0x01, p.maxIdleTimeoutMs), (0x03, p.maxUdpPayloadSize), (0x04, p.initialMaxData),
    (0x05, p.initialMaxStreamDataBidiLocal), (0x06, p.initialMaxStreamDataBidiRemote),
    (0x07, p.initialMaxStreamDataUni), (0x08, p.initialMaxStreamsBidi), (0x09, p.initialMaxStreamsUni),
    (0x0A, p.ackDelayExponent), (0x0B, p.maxAckDelayMs), (0x0E, p.activeConnectionIdLimit)]

def entries (p : TransportParameters) : List (ℕ × Option Bytes) :=
  p.connectionIds ++ p.integers.map (fun entry => (entry.1, some (intBytes entry.2))) ++
    [(0x20, p.maxDatagramFrameSize.map intBytes)]

variable {p : TransportParameters} {data : Bytes}

lemma encode_eq (p : TransportParameters) :
    p.encode = concatEncoded (p.connectionIds.map (fun entry => encodeIfSome encodeBytes entry.1 entry.2) ++
      p.integers.map (fun entry => encodeInt entry.1 entry.2) ++
      [encodeIfSome encodeInt 0x20 p.maxDatagramFrameSize]) := rfl

lemma integers_le (h : p.encode = .ok data) : ∀ entry ∈ p.integers, entry.2 ≤ varintMax := by
  intro entry hentry
  rw [encode_eq] at h
  obtain ⟨first, hfirst⟩ := ok_of_concatEncoded h
    (List.mem_append_left _ (List.mem_append_right _ (List.mem_map_of_mem hentry)))
  exact le_varintMax_of_encodeInt hfirst

lemma maxDatagramFrameSize_le (h : p.encode = .ok data) : ∀ size ∈ p.maxDatagramFrameSize, size ≤ varintMax := by
  intro size hsize
  rw [encode_eq] at h
  obtain ⟨first, hfirst⟩ := ok_of_concatEncoded h (List.mem_append_right _ (List.mem_singleton_self _))
  rw [Option.mem_def.1 hsize] at hfirst
  exact le_varintMax_of_encodeInt hfirst

lemma encode_entries (h : p.encode = .ok data) :
    concatEncoded (p.entries.map fun entry => encodeIfSome encodeBytes entry.1 entry.2) = .ok data := by
  have hints : p.integers.map (fun entry => encodeInt entry.1 entry.2) =
      p.integers.map fun entry => encodeBytes entry.1 (intBytes entry.2) :=
    List.map_congr_left fun entry hentry => encodeInt_eq (integers_le h entry hentry)
  have hsize : encodeIfSome encodeInt 0x20 p.maxDatagramFrameSize =
      encodeIfSome encodeBytes 0x20 (p.maxDatagramFrameSize.map intBytes) := by
    cases hsome : p.maxDatagramFrameSize with
    | none => rfl
    | some size => exact encodeInt_eq (maxDatagramFrameSize_le h size hsome)
  rw [encode_eq, hints, hsize] at h
  rw [entries, List.map_append, List.map_append, List.map_map]
  exact h

lemma asInt_eq {i value default : ℕ} (hget : values.get? i = some (intBytes value))
    (h : value ≤ varintMax) : asInt values i default = .ok value := by
  have hrun := run_intBytes h
  have hne := intBytes_ne_nil h
  rw [asInt, hget]
  cases hbytes : intBytes value with
  | nil => exact absurd hbytes hne
  | cons first others => rwa [hbytes] at hrun

lemma maxDatagramFrame_eq {size : Option ℕ} (hget : values.get? 0x20 = size.map intBytes)
    (h : ∀ value ∈ size, value ≤ varintMax) : maxDatagramFrame values = .ok size := by
  rw [maxDatagramFrame, hget]
  cases size with
  | none => rfl
  | some size =>
    have hrun := run_intBytes (h size rfl)
    have hne := intBytes_ne_nil (h size rfl)
    rw [Option.map_some]
    cases hbytes : intBytes size with
    | nil => exact absurd hbytes hne
    | cons first others =>
      rw [hbytes] at hrun
      change some <$> pullVarint.run (first :: others) = _
      rw [hrun]
      rfl

lemma decode_encode (h : p.encode = .ok data) : decode data = .ok p := by
  have hvalues : (pullValues data.length .empty).run data = .ok (p.entries.foldl putSome .empty) := by
    obtain ⟨parameters, rfl, hparameters⟩ := exists_parameters (encode_entries h)
    rw [← collect_present, ← hparameters]
    exact Parser.run_eq_ok_of_ensures (Parameter.pullValues_flatMap parameters .empty le_rfl)
  have hint : ∀ entry ∈ p.integers, ∀ default, asInt (p.entries.foldl putSome .empty) entry.1 default =
    .ok entry.2 := by
    intro entry hentry default
    refine asInt_eq ?_ (integers_le h entry hentry)
    simp only [integers, List.mem_cons, List.not_mem_nil, or_false] at hentry
    rcases hentry with rfl | rfl | rfl | rfl | rfl | rfl | rfl | rfl | rfl | rfl | rfl <;>
      simp [entries, connectionIds, integers, get?_putSome]
  have hsize : maxDatagramFrame (p.entries.foldl putSome .empty) = .ok p.maxDatagramFrameSize :=
    maxDatagramFrame_eq (by simp [entries, connectionIds, integers, get?_putSome]) (maxDatagramFrameSize_le h)
  have horiginal : (p.entries.foldl putSome .empty).get? 0x00 = p.originalDestinationConnectionId := by
    simp [entries, connectionIds, integers, get?_putSome]
  have hretry : (p.entries.foldl putSome .empty).get? 0x10 = p.retrySourceConnectionId := by
    simp [entries, connectionIds, integers, get?_putSome]
  have hsource : (p.entries.foldl putSome .empty).get? 0x0F = p.initialSourceConnectionId := by
    simp [entries, connectionIds, integers, get?_putSome]
  simp only [integers, List.forall_mem_cons] at hint
  obtain ⟨h1, h3, h4, h5, h6, h7, h8, h9, h10, h11, h14, -⟩ := hint
  simp only [decode, hvalues, bind, Except.bind, horiginal, hretry, hsource, h1, h3, h4, h5, h6, h7, h8, h9, h10,
    h11, h14, hsize, pure, Except.pure]

def knownIds : List ℕ :=
  [0x00, 0x10, 0x0F, 0x01, 0x03, 0x04, 0x05, 0x06, 0x07, 0x08, 0x09, 0x0A, 0x0B, 0x0E, 0x20]

section Order

variable {entries entries' : List (ℕ × Bytes)} {values : Dict ℕ Bytes}

lemma get?_collect (entries : List (ℕ × Bytes)) (values : Dict ℕ Bytes) (i : ℕ) :
    (Parameter.collect values entries).get? i =
      ((entries.filter fun entry => entry.1 = i).getLast?.map Prod.snd).or (values.get? i) := by
  induction entries using List.reverseRecOn with
  | nil => rfl
  | append_singleton entries entry ih =>
    rw [Parameter.collect, List.foldl_concat, ← Parameter.collect, Dict.get?_set, ih, List.filter_append]
    by_cases hi : i = entry.1
    · simp [hi]
    · simp [hi, Ne.symm hi]

lemma filter_eq_of_perm (h : entries.Perm entries') (hnodup : (entries'.map Prod.fst).Nodup) (i : ℕ) :
    entries.filter (fun entry => entry.1 = i) = entries'.filter fun entry => entry.1 = i := by
  have hperm := h.filter fun entry => entry.1 = i
  have hunique := hnodup.sublist ((List.filter_sublist (p := fun entry : ℕ × Bytes => entry.1 = i)).map Prod.fst)
  have hkey : ∀ entry ∈ entries'.filter (fun entry => entry.1 = i), entry.1 = i := by simp
  generalize entries'.filter (fun entry => entry.1 = i) = same at hperm hunique hkey
  rcases same with _ | ⟨first, _ | ⟨second, others⟩⟩
  · exact hperm.eq_nil
  · exact List.perm_singleton.1 hperm
  · have hfirst := hkey first List.mem_cons_self
    have hsecond := hkey second (List.mem_cons_of_mem _ List.mem_cons_self)
    simp [hfirst, hsecond] at hunique

lemma get?_collect_of_perm (h : (entries.filter fun entry => entry.1 ∈ knownIds).Perm entries')
    (hnodup : (entries'.map Prod.fst).Nodup) {i : ℕ} (hi : i ∈ knownIds) :
    (Parameter.collect values entries).get? i = (Parameter.collect values entries').get? i := by
  have hknown : entries.filter (fun entry => entry.1 = i) =
      (entries.filter fun entry => entry.1 ∈ knownIds).filter fun entry => entry.1 = i := by
    rw [List.filter_filter]
    refine List.filter_congr fun entry _ => ?_
    by_cases hentry : entry.1 = i
    · simp [hentry, hi]
    · simp [hentry]
  rw [get?_collect, get?_collect, hknown, filter_eq_of_perm h hnodup]

lemma decode_congr {data data' : Bytes} {values values' : Dict ℕ Bytes}
    (h : (pullValues data.length .empty).run data = .ok values)
    (h' : (pullValues data'.length .empty).run data' = .ok values')
    (hsame : ∀ i ∈ knownIds, values.get? i = values'.get? i) : decode data = decode data' := by
  simp only [knownIds, List.forall_mem_cons] at hsame
  obtain ⟨h0, h16, h15, h1, h3, h4, h5, h6, h7, h8, h9, h10, h11, h14, h32, -⟩ := hsame
  simp only [decode, h, h', asInt, maxDatagramFrame, bind, Except.bind, h0, h16, h15, h1, h3, h4, h5, h6, h7, h8,
    h9, h10, h11, h14, h32]

lemma present_ids_sublist (entries : List (ℕ × Option Bytes)) :
    ((present entries).map Prod.fst).Sublist (entries.map Prod.fst) := by
  induction entries with
  | nil => exact .slnil
  | cons entry entries ih =>
    obtain ⟨parameterId, value⟩ := entry
    cases value with
    | none => exact ih.cons parameterId
    | some value => exact ih.cons_cons parameterId

lemma present_ids_nodup (p : TransportParameters) : ((present p.entries).map Prod.fst).Nodup :=
  List.Nodup.sublist (present_ids_sublist p.entries) (show knownIds.Nodup by decide)

end Order

structure Encodable (p : TransportParameters) : Prop where
  connectionIds : ∀ entry ∈ p.connectionIds, ∀ cid ∈ entry.2, cid.length ≤ varintMax
  integers : ∀ entry ∈ p.integers, entry.2 ≤ varintMax
  maxDatagramFrameSize : ∀ size ∈ p.maxDatagramFrameSize, size ≤ varintMax

lemma encodeBytes_isOk {parameterId : ℕ} {value : Bytes} (hid : parameterId ≤ varintMax)
    (hvalue : value.length ≤ varintMax) :
    ∃ data, encodeBytes parameterId value = .ok data := by
  obtain ⟨identifier, hidentifier⟩ := encodeVarint_isOk hid
  obtain ⟨length, hlength⟩ := encodeVarint_isOk hvalue
  exact ⟨identifier ++ (length ++ value), concatEncoded_cons_ok.2 ⟨identifier, _, hidentifier,
    concatEncoded_cons_ok.2 ⟨length, _, hlength, concatEncoded_singleton _, rfl⟩, rfl⟩⟩

lemma encodeInt_isOk (hid : parameterId ≤ varintMax) (h : value ≤ varintMax) :
    ∃ data, encodeInt parameterId value = .ok data := by
  rw [encodeInt_eq h]
  refine encodeBytes_isOk hid ?_
  rw [length_encodeVarint (encodeVarint_intBytes h)]
  exact (varintLength_le value).trans (by decide)

lemma Encodable.encode_isOk (h : p.Encodable) : ∃ data, p.encode = .ok data := by
  have hcids : ∀ i ∈ p.connectionIds.map Prod.fst, i ≤ varintMax :=
    show ∀ i ∈ [0x00, 0x10, 0x0F], i ≤ varintMax by decide
  have hints : ∀ i ∈ p.integers.map Prod.fst, i ≤ varintMax :=
    show ∀ i ∈ [0x01, 0x03, 0x04, 0x05, 0x06, 0x07, 0x08, 0x09, 0x0A, 0x0B, 0x0E], i ≤ varintMax by decide
  rw [encode_eq]
  refine concatEncoded_isOk fun part hmem => ?_
  rw [List.mem_append, List.mem_append, List.mem_singleton] at hmem
  rcases hmem with (hmem | hmem) | rfl
  · obtain ⟨⟨parameterId, value⟩, hentry, rfl⟩ := List.mem_map.1 hmem
    have hid : parameterId ≤ varintMax := hcids _ (List.mem_map_of_mem hentry)
    cases value with
    | none => exact ⟨[], rfl⟩
    | some value => exact encodeBytes_isOk hid (h.connectionIds _ hentry value rfl)
  · obtain ⟨⟨parameterId, value⟩, hentry, rfl⟩ := List.mem_map.1 hmem
    have hid : parameterId ≤ varintMax := hints _ (List.mem_map_of_mem hentry)
    exact encodeInt_isOk hid (h.integers _ hentry)
  · cases hsize : p.maxDatagramFrameSize with
    | none => exact ⟨[], rfl⟩
    | some size => exact encodeInt_isOk (by decide) (h.maxDatagramFrameSize size hsize)

theorem parameters_survive_order (h : p.Encodable) :
    ∃ parameters : List Parameter, parameters.map Parameter.entry = present p.entries ∧
      p.encode = .ok (parameters.flatMap Parameter.bytes) ∧ decode (parameters.flatMap Parameter.bytes) = .ok p ∧
      ∀ others : List Parameter,
        ((others.map Parameter.entry).filter fun entry => entry.1 ∈ knownIds).Perm
          (parameters.map Parameter.entry) →
        decode (others.flatMap Parameter.bytes) = .ok p := by
  obtain ⟨data, hencode⟩ := h.encode_isOk
  obtain ⟨parameters, rfl, hparameters⟩ := exists_parameters (encode_entries hencode)
  refine ⟨parameters, hparameters, hencode, decode_encode hencode, fun others hperm => ?_⟩
  rw [← decode_encode hencode]
  have hvalues := fun parameters : List Parameter =>
    Parser.run_eq_ok_of_ensures (Parameter.pullValues_flatMap parameters .empty le_rfl)
  refine decode_congr (hvalues others) (hvalues parameters) fun i hi => ?_
  exact get?_collect_of_perm hperm (hparameters ▸ present_ids_nodup p) hi

theorem parameters_survive_order_empty :
    ∃ parameters : List Parameter,
      parameters.map Parameter.entry =
        present (entries { initialSourceConnectionId := some [], maxDatagramFrameSize := some 0 }) ∧
      encode { initialSourceConnectionId := some [], maxDatagramFrameSize := some 0 } =
        .ok (parameters.flatMap Parameter.bytes) ∧
      decode (parameters.flatMap Parameter.bytes) =
        .ok { initialSourceConnectionId := some [], maxDatagramFrameSize := some 0 } ∧
      ∀ others : List Parameter,
        ((others.map Parameter.entry).filter fun entry => entry.1 ∈ knownIds).Perm
          (parameters.map Parameter.entry) →
        decode (others.flatMap Parameter.bytes) =
          .ok { initialSourceConnectionId := some [], maxDatagramFrameSize := some 0 } :=
  parameters_survive_order ⟨by decide, by decide, by decide⟩

end TransportParameters

end Dsquic.Wire
