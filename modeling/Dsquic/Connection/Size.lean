import Dsquic.Connection.Send

/-!
How long the packets are that a connection builds.
-/

namespace Dsquic.Connection

open Lib Wire Streams Recovery

def Takes (parts : List (Except Raised Bytes)) (n : ℕ) : Prop :=
  ∀ data, concatEncoded parts = .ok data → data.length ≤ n

variable {data : Bytes} {frame : Crypto}

section Takes

variable {parts parts' : List (Except Raised Bytes)} {m n : ℕ} {part : Except Raised Bytes}

lemma takes_nil : Takes [] 0 := by
  rintro data ⟨⟩
  rfl

lemma Takes.mono (h : Takes parts m) (hmn : m ≤ n) : Takes parts n := fun data hdata => (h data hdata).trans hmn

lemma Takes.cons (hpart : ∀ data, part = .ok data → data.length ≤ m)
    (h : Takes parts n) : Takes (part :: parts) (m + n) := by
  intro data hdata
  obtain ⟨first, hfirst, hdata⟩ := bind_eq_ok.1 hdata
  obtain ⟨rest, hrest, hdata⟩ := bind_eq_ok.1 hdata
  cases hdata
  rw [List.length_append]
  exact Nat.add_le_add (hpart first hfirst) (h rest hrest)

lemma takes_singleton (hpart : ∀ data, part = .ok data → data.length ≤ n) :
    Takes [part] n := Takes.cons hpart takes_nil

lemma concatEncoded_append (h : concatEncoded (parts ++ parts') = .ok data) :
    ∃ left right, concatEncoded parts = .ok left ∧ concatEncoded parts' = .ok right ∧ data = left ++ right := by
  induction parts generalizing data with
  | nil => exact ⟨[], data, rfl, h, rfl⟩
  | cons part parts ih =>
    obtain ⟨first, hfirst, h⟩ := bind_eq_ok.1 h
    obtain ⟨rest, hrest, h⟩ := bind_eq_ok.1 h
    obtain ⟨left, right, hleft, hright, rfl⟩ := ih hrest
    cases h
    exact ⟨first ++ left, right, bind_eq_ok.2 ⟨first, hfirst, bind_eq_ok.2 ⟨left, hleft, rfl⟩⟩, hright,
      (List.append_assoc _ _ _).symm⟩

lemma Takes.append (h : Takes parts m) (h' : Takes parts' n) : Takes (parts ++ parts') (m + n) := by
  intro data hdata
  obtain ⟨left, right, hleft, hright, rfl⟩ := concatEncoded_append hdata
  rw [List.length_append]
  exact Nat.add_le_add (h left hleft) (h' right hright)

lemma takes_varint (value : ℕ) (h : Takes parts n) : Takes (encodeVarint value :: parts) (8 + n) :=
  Takes.cons (fun _ hdata => (length_encodeVarint hdata).trans_le (varintLength_le value)) h

lemma takes_type {v : ℕ} (hvalue : v ≤ 63) (h : Takes parts n) :
    Takes (encodeVarint v :: parts) (1 + n) := by
  apply Takes.cons _ h
  intro data hdata
  rw [length_encodeVarint hdata, varintLength, if_pos hvalue]

lemma takes_data (data : Bytes) : Takes [.ok data] data.length := by
  apply takes_singleton
  rintro _ ⟨⟩
  exact le_refl _

end Takes

section Frames

lemma length_encode_crypto (h : frame.encode = .ok data) :
    data.length ≤ 17 + frame.data.length := by
  have htakes := takes_type (v := 0x06) (by decide)
    (takes_varint frame.offset (takes_varint frame.data.length (takes_data frame.data)))
  have := htakes data h
  omega

lemma length_encode_stream {frame : Stream} (h : frame.encode = .ok data) :
    data.length ≤ 25 + frame.data.length := by
  have hoffset : Takes (if frame.offset ≠ 0 then [encodeVarint frame.offset] else []) 8 := by
    split_ifs
    · exact takes_varint _ takes_nil
    · exact takes_nil.mono (Nat.zero_le 8)
  have htype :
    0x08 ||| 0x02 ||| (if frame.offset ≠ 0 then 0x04 else 0) ||| (if frame.fin then 0x01 else 0) ≤ 63 := by
    split_ifs <;> decide
  have htakes := ((takes_type htype (takes_varint frame.streamId takes_nil)).append hoffset).append
    (takes_varint frame.data.length (takes_data frame.data))
  have := htakes data h
  omega

lemma length_encode_close {frame : ConnectionClose} (h : frame.encode = .ok data) :
    data.length ≤ 25 + frame.reason.length := by
  have htail := takes_varint frame.reason.length (takes_data frame.reason)
  rw [ConnectionClose.encode] at h
  cases hframe : frame.frameType with
  | none =>
    rw [hframe] at h
    have htakes := (takes_type (v := 0x1D) (by decide) (takes_varint frame.errorCode takes_nil)).append htail
    have := htakes data h
    omega
  | some frameType =>
    rw [hframe] at h
    have hhead := takes_varint frame.errorCode (takes_varint frameType takes_nil)
    have htakes := (takes_type (v := 0x1C) (by decide) hhead).append htail
    have := htakes data h
    omega

lemma length_nextFrame {send send' : SendStream} {frame : Stream} {maxBytes credit : ℤ} (hmax : 0 ≤ maxBytes)
    (h : send.nextFrame maxBytes credit = (some frame, send')) : (frame.data.length : ℤ) ≤ maxBytes := by
  have hnew : ∀ {frame : Stream} {send' : SendStream}, send.newFrame maxBytes credit = (some frame, send') →
      (frame.data.length : ℤ) ≤ maxBytes := by
    intro frame send' h
    simp only [SendStream.newFrame] at h
    split_ifs at h
    · cases h
    · cases h
      simp only [List.length_take, SendStream.budget]
      omega
  simp only [SendStream.nextFrame] at h
  cases hlost : send.retransmit with
  | nil =>
    rw [hlost] at h
    exact hnew h
  | cons lost rest =>
    simp only [hlost] at h
    split_ifs at h with hfits
    · cases h
      exact hfits
    · exact hnew h

end Frames

section Choice

variable {env : Env} {c : Conn env} {level : Level} {room : ℤ}

def Accounted (frames : List Frame) (used : ℕ) : Prop := Takes (frames.map Frame.encode) used

lemma accounted_nil (used : ℕ) : Accounted [] used := takes_nil.mono (Nat.zero_le used)

lemma accounted_singleton (frame : Frame) {encoded : Bytes} (h : frame.encode = .ok encoded) :
    Accounted [frame] encoded.length := by
  apply takes_singleton
  intro data hdata
  cases h.symm.trans hdata
  exact le_refl _

lemma Accounted.append {frames frames' : List Frame} {m n : ℕ} (h : Accounted frames m)
    (h' : Accounted frames' n) :
    Accounted (frames ++ frames') (m + n) := by
  rw [Accounted, List.map_append]
  exact Takes.append h h'

lemma chooseAck_fits :
    Ensures (chooseAck level room) c fun r _ => Accounted r.1 r.2 ∧ (r.2 : ℤ) ≤ max 0 room := by
  simp only [chooseAck, ensures_state]
  cases (c.spaces level).buildAck with
  | none => exact ⟨accounted_nil 0, le_max_left _ _⟩
  | some ack =>
    simp only [ensures_flow]
    refine ⟨fun encoded hencoded => ⟨fun hfits => ?_, fun _ => ⟨accounted_nil 0, le_max_left _ _⟩⟩,
      fun _ _ => trivial⟩
    exact ⟨accounted_singleton (.ack ack) hencoded, hfits.trans (le_max_right _ _)⟩

lemma nextCrypto_cases (space : Space PacketKeys Bytes) (available : ℕ) :
    space.nextCrypto available = (none, space) ∨
    (∃ lost rest, space.cryptoRetransmit = lost :: rest ∧ 0 < available ∧ space.nextCrypto available =
      (some ⟨lost.offset, lost.data.take available⟩, { space with
        cryptoRetransmit := if lost.data.drop available = [] then rest
          else ⟨lost.offset + (lost.data.take available).length, lost.data.drop available⟩ :: rest })) ∨
    (0 < available ∧ space.nextCrypto available =
      (some ⟨space.cryptoOffsetSent, space.cryptoPending.take available⟩, { space with
        cryptoPending := space.cryptoPending.drop available
        cryptoOffsetSent := space.cryptoOffsetSent + (space.cryptoPending.take available).length })) := by
  cases available with
  | zero => exact .inl (by simp [Space.nextCrypto])
  | succ available =>
    simp only [Space.nextCrypto]
    cases space.cryptoRetransmit with
    | cons lost rest => exact .inr (.inl ⟨lost, rest, rfl, Nat.succ_pos available, rfl⟩)
    | nil =>
      by_cases hchunk : space.cryptoPending.take (available + 1) = []
      · exact .inl (if_pos hchunk)
      · exact .inr (.inr ⟨Nat.succ_pos available, if_neg hchunk⟩)

lemma length_nextCrypto {space space' : Space PacketKeys Bytes} {available : ℕ}
    (h : space.nextCrypto available = (some frame, space')) : frame.data.length ≤ available ∧ 0 < available := by
  rcases nextCrypto_cases space available with hnone | ⟨lost, rest, -, hpos, hlost⟩ | ⟨hpos, hnew⟩
  · rw [hnone] at h
    cases h
  · rw [hlost] at h
    cases h
    exact ⟨List.length_take_le _ _, hpos⟩
  · rw [hnew] at h
    cases h
    exact ⟨List.length_take_le _ _, hpos⟩

lemma chooseCrypto_fits :
    Ensures (chooseCrypto level room) c fun r _ => Accounted r.1 r.2 ∧ (r.2 : ℤ) ≤ max 0 (room + 1) := by
  simp only [chooseCrypto, ensures_state]
  cases hnext : (c.spaces level).nextCrypto (room - 16).toNat with
  | mk crypto space =>
    cases crypto with
    | none => exact ⟨accounted_nil 0, le_max_left _ _⟩
    | some frame =>
      obtain ⟨hlength, hpos⟩ := length_nextCrypto hnext
      simp only [ensures_flow]
      refine ⟨fun encoded hencoded => ⟨accounted_singleton (.crypto frame) hencoded, ?_⟩, fun _ _ => trivial⟩
      have := length_encode_crypto hencoded
      omega

lemma takeControl_fits (frames : List Frame) (used : ℕ) :
    Ensures (takeControl room frames used) c
      fun r _ => ∃ n, r.2 = used + n ∧ Accounted r.1 n ∧ (r.2 : ℤ) ≤ max (used : ℤ) room := by
  have hstop : ∀ c : Conn env, Ensures (pure ([], used) : M env (List Frame × ℕ)) c
      fun r _ => ∃ n, r.2 = used + n ∧ Accounted r.1 n ∧ (r.2 : ℤ) ≤ max (used : ℤ) room :=
    fun _ => ⟨0, rfl, accounted_nil 0, le_max_left _ _⟩
  induction frames generalizing used c with
  | nil => exact hstop c
  | cons control rest ih =>
    simp only [takeControl, ensures_flow]
    refine ⟨fun hroom => ⟨fun encoded hencoded => ⟨fun _ => hstop c, fun hfits => ?_⟩, fun _ _ => trivial⟩,
      fun _ => hstop c⟩
    apply (ih (used + encoded.length) fun _ => ⟨0, rfl, accounted_nil 0, le_max_left _ _⟩).imp
    rintro ⟨taken, total⟩ _ ⟨n, rfl, hn, hle⟩
    refine ⟨encoded.length + n, Nat.add_assoc _ _ _, (accounted_singleton _ hencoded).append hn, ?_⟩
    push_cast at hle ⊢
    omega

lemma takeStreams_fits (streamIds : List ℕ) (used : ℕ) :
    Ensures (takeStreams room streamIds used) c
      fun r _ => ∃ n, r.2 = used + n ∧ Accounted r.1 n ∧ (r.2 : ℤ) ≤ max (used : ℤ) (room + 1) := by
  have hstop : ∀ c : Conn env, Ensures (pure ([], used) : M env (List Frame × ℕ)) c
      fun r _ => ∃ n, r.2 = used + n ∧ Accounted r.1 n ∧ (r.2 : ℤ) ≤ max (used : ℤ) (room + 1) :=
    fun _ => ⟨0, rfl, accounted_nil 0, le_max_left _ _⟩
  induction streamIds generalizing used c with
  | nil => exact hstop c
  | cons streamId streamIds ih =>
    simp only [takeStreams, ensures_state]
    cases c.streams with
    | none => exact hstop c
    | some streams =>
      simp only [ensures_flow, onStreams]
      refine ⟨fun _ => hstop c, fun hroom => ?_⟩
      apply (streams.nextFrame_spec streamId (room - used - 24)).imp_true
      rintro frame m' ⟨send, -, hframe, -⟩
      cases frame with
      | none => exact ih used hstop
      | some frame =>
        have hlength := length_nextFrame (not_le.1 hroom).le (Prod.ext hframe.symm rfl)
        simp only [ensures_flow]
        refine ⟨fun encoded hencoded => ?_, fun _ _ => trivial⟩
        have hencoded_le := length_encode_stream hencoded
        apply (ih (used + encoded.length) fun _ => ⟨0, rfl, accounted_nil 0, le_max_left _ _⟩).imp
        rintro ⟨taken, total⟩ _ ⟨n, rfl, hn, hle⟩
        refine ⟨encoded.length + n, Nat.add_assoc _ _ _,
          (accounted_singleton (.stream frame) hencoded).append hn, ?_⟩
        push_cast at hle ⊢
        omega

lemma chooseHandshakeDone_fits :
    Ensures chooseHandshakeDone c fun r _ => Accounted r.1 r.2 ∧ r.2 ≤ 1 := by
  simp only [chooseHandshakeDone, ensures_flow]
  exact ⟨fun _ => ⟨accounted_singleton .handshakeDone rfl, le_refl 1⟩,
    fun _ => ⟨accounted_nil 0, Nat.zero_le 1⟩⟩

lemma applicationFrames_fits :
    Ensures (applicationFrames room) c fun r _ => Accounted r.1 r.2 ∧ (r.2 : ℤ) ≤ max 1 (room + 1) := by
  simp only [applicationFrames, ensures_state]
  apply chooseHandshakeDone_fits.imp
  rintro ⟨done, used⟩ c₁ ⟨hdone, hused⟩
  apply (takeControl_fits c₁.controlFrames used).imp
  rintro ⟨control, _⟩ c₂ ⟨n, rfl, hcontrol, hn⟩
  apply (takeStreams_fits _ _).imp
  rintro ⟨streams, _⟩ c₃ ⟨m, rfl, hstreams, hm⟩
  refine ⟨(hdone.append hcontrol).append hstreams, ?_⟩
  push_cast at hn hm ⊢
  omega

lemma firstFitting_fits (frames : List Crypto) {filler : Frame} (h : firstFitting room frames = .ok filler) :
    ∃ n : ℕ, Accounted [filler] n ∧ (n : ℤ) ≤ max 1 room := by
  induction frames with
  | nil =>
    cases h
    exact ⟨1, accounted_singleton .ping rfl, le_max_left _ _⟩
  | cons frame frames ih =>
    obtain ⟨encoded, hencoded, h⟩ := bind_eq_ok.1 h
    split_ifs at h with hfits
    · cases h
      exact ⟨encoded.length, accounted_singleton (.crypto frame) hencoded, hfits.trans (le_max_right _ _)⟩
    · exact ih h

lemma chooseProbe_fits (chosen : List Frame) :
    Ensures (chooseProbe level room chosen) c fun frames _ => ∃ n : ℕ, Accounted frames n ∧
      (n : ℤ) ≤ max 1 room := by
  have hnone : ∃ n : ℕ, Accounted [] n ∧ (n : ℤ) ≤ max 1 room :=
    ⟨0, accounted_nil 0, le_max_of_le_left Int.one_nonneg⟩
  simp only [chooseProbe, ensures_flow]
  exact ⟨fun _ => hnone, fun _ => ⟨fun _ => hnone, fun _ => ⟨fun filler hfiller =>
    ⟨fun _ _ => firstFitting_fits _ hfiller, fun _ _ => trivial⟩, fun _ _ => trivial⟩⟩⟩

lemma pendingFrames_fits (hroom : 0 ≤ room) (ackOnly : Bool) :
    Ensures (pendingFrames level room ackOnly) c
      fun frames _ => ∃ n : ℕ, Accounted frames n ∧ (n : ℤ) ≤ room + 3 := by
  simp only [pendingFrames, ensures_flow]
  apply chooseAck_fits.imp
  rintro ⟨ack, a⟩ c₁ ⟨hack, ha⟩
  refine ⟨fun _ => ⟨a, hack, by omega⟩, fun _ => ?_⟩
  apply chooseCrypto_fits.imp
  rintro ⟨crypto, b⟩ c₂ ⟨hcrypto, hb⟩
  have happlication : Ensures (applicationFramesAt level (room - ((a + b : ℕ) : ℤ))) c₂
      fun r _ => Accounted r.1 r.2 ∧ (r.2 : ℤ) ≤ max 1 (room - ((a + b : ℕ) : ℤ) + 1) := by
    simp only [applicationFramesAt, ensures_flow]
    exact ⟨fun _ => applicationFrames_fits, fun _ => ⟨accounted_nil 0, le_max_of_le_left Int.one_nonneg⟩⟩
  apply happlication.imp
  rintro ⟨application, d⟩ c₃ ⟨happlication, hd⟩
  apply (chooseProbe_fits _).imp
  rintro filler _ ⟨n, hfiller, hn⟩
  refine ⟨a + b + d + n, ((hack.append hcrypto).append happlication).append hfiller, ?_⟩
  push_cast at hb hd hn ⊢
  omega

end Choice

section Packets

variable {env : Env} {c : Conn env} {level : Level}

lemma length_padPayload (payload : Bytes) : (padPayload payload).length = max payload.length 4 := by
  simp only [padPayload, List.length_append, List.length_replicate, maxPnLength, sampleLength, aeadTagLength]
  omega

lemma length_expandPayload {template : LongHeaderTemplate} {padTo number pnLength : ℕ}
    {payload payload' header : Bytes} (hpn : pnLength ≤ 4)
    (h : expandPayload template padTo payload number pnLength = .ok payload')
    (hheader : buildLongHeader template (payload'.length + aeadTagLength) number pnLength = .ok header) :
    header.length + payload'.length + aeadTagLength ≤
      max (43 + template.destinationCid.length + template.sourceCid.length + template.token.length +
        payload.length)
        padTo := by
  have hlength := length_buildLongHeader hheader (by omega)
  have hle := longHeaderLength_le template (payload'.length + aeadTagLength) hpn
  simp only [expandPayload] at h
  split_ifs at h with hpad
  · cases h
    simp only [aeadTagLength] at *
    omega
  · obtain ⟨trial, htrial, h⟩ := bind_eq_ok.1 h
    have htrial := length_buildLongHeader htrial (by omega)
    obtain rfl : payload ++ List.replicate (padTo - trial.length - payload.length - aeadTagLength) 0 = payload' :=
      Except.ok.inj h
    by_cases hgrows : padTo - trial.length - payload.length - aeadTagLength = 0
    · simp only [hgrows, List.replicate_zero, List.append_nil, aeadTagLength] at *
      omega
    · -- the final header announces no more than the trial header did
      have hmono : longHeaderLength template ((payload ++ List.replicate
          (padTo - trial.length - payload.length - aeadTagLength) (0 : UInt8)).length + aeadTagLength) pnLength ≤
          longHeaderLength template padTo pnLength := by
        apply longHeaderLength_mono
        simp only [List.length_append, List.length_replicate, aeadTagLength] at hgrows ⊢
        omega
      simp only [List.length_append, List.length_replicate, aeadTagLength] at *
      omega

lemma length_frameUp {short : Bool} {padTo number : ℕ} {payload pnBytes header payload' : Bytes}
    (hpn : pnBytes.length ≤ 4) (h : c.frameUp level short padTo payload number pnBytes = .ok (header, payload')) :
    header.length + payload'.length + aeadTagLength ≤
      max (43 + c.peerCid.length + c.hostCid.length + (c.headerTemplate level).token.length + payload.length)
        padTo := by
  simp only [Conn.frameUp] at h
  split_ifs at h
  · cases h
    simp only [Conn.shortHeader, List.length_append, List.length_singleton, aeadTagLength]
    omega
  · obtain ⟨expanded, hexpanded, h⟩ := bind_eq_ok.1 h
    obtain ⟨built, hbuilt, h⟩ := bind_eq_ok.1 h
    cases h
    exact length_expandPayload hpn hexpanded hbuilt

lemma sealPacket_fits (keys : PacketKeys) (short : Bool) (padTo : ℕ) (payload : Bytes) (number : ℕ)
    (frames : List Frame) :
    Ensures (sealPacket level keys short padTo payload number frames) c
      fun packet _ => packet.length ≤ max (43 + c.peerCid.length + c.hostCid.length +
        (c.headerTemplate level).token.length + payload.length) padTo := by
  simp only [sealPacket, ensures_bind, ensures_modify, ensures_lift, ensures_get]
  refine ⟨fun pnBytes hpnBytes => ⟨fun framed hframed => ⟨fun packet hpacket => ?_, fun _ _ => trivial⟩,
    fun _ _ => trivial⟩, fun _ _ => trivial⟩
  rw [ensures_pure, env.length_protect hpacket]
  exact length_frameUp (c := c.takeNumber level) (length_encodePacketNumber hpnBytes).2 hframed

end Packets

end Dsquic.Connection
