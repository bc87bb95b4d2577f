import Dsquic.Wire.Reads
import Mathlib.Data.List.Chain

/-!
Frames are read back as they were encoded, and whatever is read is well formed.
-/

namespace Dsquic.Wire

open Lib Buffer

def Apart (above below : ℕ × ℕ) : Prop := below.2 + 2 ≤ above.1

instance : DecidableRel Apart := fun above below => inferInstanceAs (Decidable (below.2 + 2 ≤ above.1))

structure EcnCounts.WellFormed (counts : EcnCounts) : Prop where
  ect0 : counts.ect0 ≤ varintMax
  ect1 : counts.ect1 ≤ varintMax
  ce : counts.ce ≤ varintMax

structure Ack.WellFormed (frame : Ack) : Prop where
  largest : frame.largest ≤ varintMax
  delay : frame.delay ≤ varintMax
  first : frame.ranges.head?.map Prod.snd = some frame.largest
  ordered : ∀ range ∈ frame.ranges, range.1 ≤ range.2
  apart : frame.ranges.IsChain Apart
  ecn : ∀ counts ∈ frame.ecn, counts.WellFormed

def Frame.WellFormed : Frame → Prop
  | padding length => 1 ≤ length
  | ping | handshakeDone => True
  | ack frame => frame.WellFormed
  | resetStream streamId errorCode finalSize =>
    streamId ≤ varintMax ∧ errorCode ≤ varintMax ∧ finalSize ≤ varintMax
  | stopSending streamId errorCode => streamId ≤ varintMax ∧ errorCode ≤ varintMax
  | crypto frame => frame.offset ≤ varintMax ∧ frame.data.length ≤ varintMax
  | newToken token => token.length ≤ varintMax
  | stream frame => frame.streamId ≤ varintMax ∧ frame.offset ≤ varintMax ∧ frame.data.length ≤ varintMax
  | maxData maximum | maxStreams maximum _ => maximum ≤ varintMax
  | maxStreamData streamId limit | streamDataBlocked streamId limit => streamId ≤ varintMax ∧ limit ≤ varintMax
  | dataBlocked limit | streamsBlocked limit _ => limit ≤ varintMax
  | newConnectionId sequence retirePriorTo connectionId resetToken =>
    sequence ≤ varintMax ∧ retirePriorTo ≤ varintMax ∧ connectionId.length ≤ 255 ∧ resetToken.length = 16
  | retireConnectionId sequence => sequence ≤ varintMax
  | pathChallenge data | pathResponse data => data.length = 8
  | connectionClose frame => frame.errorCode ≤ varintMax ∧ frame.reason.length ≤ varintMax ∧
    ∀ frameType ∈ frame.frameType, frameType ≤ varintMax
  | datagram data => data.length ≤ varintMax

def Frame.isPadding : Frame → Bool
  | padding _ => true
  | _ => false

def Frame.Follows (before after : Frame) : Prop := ¬(before.isPadding = true ∧ after.isPadding = true)

structure Payload (frames : List Frame) : Prop where
  nonempty : frames ≠ []
  wellFormed : ∀ frame ∈ frames, frame.WellFormed
  separate : frames.IsChain Frame.Follows

def encodeFrames (frames : List Frame) : Except Raised Bytes := concatEncoded (frames.map Frame.encode)

variable {frameType : ℕ} {parser : Parser Frame} {frame : Frame} {data : Bytes}

section Decodes

variable {rest : Bytes} {ranges : List (ℕ × ℕ)} {low high : ℕ} {a b : ℕ}

lemma decodes_parseFrame {parts : List (Except Raised Bytes)}
    (htype : frameType ≤ varintMax) (hparser : frameParser frameType = some parser)
    (h : parser.Decodes (concatEncoded parts) rest frame) :
    parseFrame.Decodes (concatEncoded (encodeVarint frameType :: parts)) rest frame := by
  obtain ⟨data', hparts, hreads'⟩ := h
  obtain ⟨data, hdata, hreads⟩ := decodes_pullVarint htype (data' ++ rest)
  refine ⟨data ++ data', concatEncoded_append_ok ((concatEncoded_singleton _).trans hdata) hparts,
    fun position => ?_⟩
  simp only [parseFrame, ensures_state, List.append_assoc]
  apply (hreads position).mono
  · rintro _ _ ⟨rfl, rfl⟩
    simp only [ensures_flow, hdata, Except.ok.injEq, hparser]
    refine ⟨?_, fun _ h => by cases h⟩
    rintro _ rfl
    refine ⟨fun hlength => hlength (Nat.add_sub_cancel_left ..), fun _ => ?_⟩
    have hnext := hreads' (position + data.length)
    rwa [Nat.add_assoc, ← List.length_append] at hnext
  · exact fun _ _ hfalse => hfalse

lemma decodes_parse1 (frame : ℕ → Frame) {a : ℕ} (ha : a ≤ varintMax) :
    (parse1 frame).Decodes (concatEncoded [encodeVarint a]) rest (frame a) :=
  .bind (decodes_pullVarint ha) (.pure _ _)

lemma decodes_parse2 (frame : ℕ → ℕ → Frame) (ha : a ≤ varintMax) (hb : b ≤ varintMax) :
    (parse2 frame).Decodes (concatEncoded [encodeVarint a, encodeVarint b]) rest (frame a b) :=
  .bind (decodes_pullVarint ha) (.bind (decodes_pullVarint hb) (.pure _ _))

lemma decodes_parse3 (frame : ℕ → ℕ → ℕ → Frame) {a b c : ℕ} (ha : a ≤ varintMax) (hb : b ≤ varintMax)
    (hc : c ≤ varintMax) :
    (parse3 frame).Decodes (concatEncoded [encodeVarint a, encodeVarint b, encodeVarint c]) rest (frame a b c) :=
  .bind (decodes_pullVarint ha) (.bind (decodes_pullVarint hb) (.bind (decodes_pullVarint hc) (.pure _ _)))

lemma decodes_parsePadding (length : ℕ) (hrest : rest.head? ≠ some 0) :
    parsePadding.Decodes (concatEncoded [.ok (List.replicate length 0)]) rest (.padding (1 + length)) := by
  rw [concatEncoded_singleton]
  refine ⟨_, rfl, fun position => ?_⟩
  have hrun : (List.replicate length 0 ++ rest).takeWhile (· == 0) = List.replicate length (0 : UInt8) := by
    rw [List.takeWhile_append_of_pos (by simp)]
    cases rest with
    | nil => simp
    | cons byte rest =>
      have hbyte : (byte == 0) = false := by simpa using hrest
      simp [hbyte]
  simp only [parsePadding, ensures_state, hrun]
  simp

lemma encodeVarintSub_eq (h : b ≤ a) : encodeVarintSub a b = encodeVarint (a - b) := by
  simp [encodeVarintSub, Nat.not_lt.2 h]

lemma two_mul_length_le (hordered : ∀ range ∈ ranges, range.1 ≤ range.2)
    (hapart : ((low, high) :: ranges).IsChain Apart) : 2 * ranges.length ≤ low := by
  induction ranges generalizing low high with
  | nil => simp
  | cons range ranges ih =>
    obtain ⟨hnext, hapart⟩ := List.isChain_cons_cons.1 hapart
    have hle := hordered range List.mem_cons_self
    have := ih (fun range h => hordered range (List.mem_cons_of_mem _ h)) hapart
    simp only [Apart] at hnext
    simp only [List.length_cons]
    omega

lemma decodes_parseAckRanges (hlow : low ≤ varintMax)
    (hordered : ∀ range ∈ ranges, range.1 ≤ range.2) (hapart : ((low, high) :: ranges).IsChain Apart)
    (rest : Bytes) :
    (parseAckRanges ranges.length low).Decodes (concatEncoded (encodeAckRanges low ranges)) rest ranges := by
  induction ranges generalizing low high with
  | nil => exact .pure _ _
  | cons range ranges ih =>
    obtain ⟨hnext, hapart⟩ := List.isChain_cons_cons.1 hapart
    have hle := hordered range List.mem_cons_self
    have hothers := ih (by simp only [Apart] at hnext; omega)
      (fun range h => hordered range (List.mem_cons_of_mem _ h)) hapart
    simp only [Apart] at hnext
    rw [encodeAckRanges, encodeVarintSub_eq (by omega), encodeVarintSub_eq hle, List.length_cons, parseAckRanges]
    apply Parser.Decodes.bind (decodes_pullVarint (by omega))
    apply Parser.Decodes.bind (decodes_pullVarint (by omega))
    apply Parser.Decodes.raiseIf_bind (by omega)
    have hhigh : low - (low - (range.2 + 2)) - 2 = range.2 := by omega
    have hrange : range.2 - (range.2 - range.1) = range.1 := by omega
    simp only [hhigh, hrange]
    exact hothers.bind_pure _

lemma decodes_parseEcn {ecn : Option EcnCounts} (h : ∀ counts ∈ ecn, counts.WellFormed) :
    (parseEcn (if ecn.isSome then 0x03 else 0x02)).Decodes (concatEncoded (encodeEcn ecn)) rest ecn := by
  cases ecn with
  | none => exact .pure _ _
  | some counts =>
    obtain ⟨hect0, hect1, hce⟩ := h counts rfl
    exact .bind (decodes_pullVarint hect0)
      (.bind (decodes_pullVarint hect1) (.bind (decodes_pullVarint hce) (.pure _ _)))

lemma decodes_ack {frame : Ack} (h : frame.WellFormed) : parseFrame.Decodes frame.encode rest (.ack frame) := by
  obtain ⟨hlargest, hdelay, hfirst, hordered, hapart, hecn⟩ := h
  obtain ⟨largest, delay, ranges, ecn⟩ := frame
  cases ranges with
  | nil => cases hfirst
  | cons range ranges =>
    obtain ⟨low, high⟩ := range
    obtain rfl : high = largest := by simpa using hfirst
    have hle : low ≤ high := hordered _ List.mem_cons_self
    change high ≤ varintMax at hlargest
    change delay ≤ varintMax at hdelay
    have hordered : ∀ range ∈ ranges, range.1 ≤ range.2 := fun range h => hordered range (List.mem_cons_of_mem _ h)
    have hcount := two_mul_length_le hordered hapart
    simp only [Ack.encode, ne_eq, not_true, if_false, encodeVarintSub_eq hle, List.cons_append, List.nil_append]
    have hparse (frameType : ℕ) (htype : frameType = if ecn.isSome then 0x03 else 0x02) :
        (parseAck frameType).Decodes (concatEncoded (encodeVarint high :: encodeVarint delay ::
          encodeVarint ranges.length :: encodeVarint (high - low) ::
            (encodeAckRanges low ranges ++ encodeEcn ecn)))
          rest (.ack ⟨high, delay, (low, high) :: ranges, ecn⟩) := by
      apply Parser.Decodes.bind (decodes_pullVarint hlargest)
      apply Parser.Decodes.bind (decodes_pullVarint hdelay)
      apply Parser.Decodes.bind (decodes_pullVarint (by omega))
      apply Parser.Decodes.bind (decodes_pullVarint (by omega))
      apply Parser.Decodes.raiseIf_bind (Nat.not_lt.2 (Nat.sub_le high low))
      rw [show high - (high - low) = low by omega]
      apply Parser.Decodes.bind_append (decodes_parseAckRanges (by omega) hordered hapart)
      rw [htype]
      exact (decodes_parseEcn hecn).bind_pure _
    cases ecn with
    | none => exact decodes_parseFrame (show 0x02 ≤ varintMax by decide) rfl (hparse 0x02 rfl)
    | some counts => exact decodes_parseFrame (show 0x03 ≤ varintMax by decide) rfl (hparse 0x03 rfl)

lemma decodes_parseStream {streamId offset : ℕ} (frameType : ℕ) (hid : streamId ≤ varintMax)
    (hoffset : offset ≤ varintMax) (hdata : data.length ≤ varintMax) (hlen : frameType &&& 0x02 ≠ 0)
    (hoff : frameType &&& 0x04 ≠ 0 ↔ offset ≠ 0) :
    (parseStream frameType).Decodes (concatEncoded (encodeVarint streamId ::
      ((if offset ≠ 0 then [encodeVarint offset] else []) ++ [encodeVarint data.length, .ok data])))
      rest (.stream ⟨streamId, offset, data, frameType &&& 0x01 ≠ 0⟩) := by
  apply Parser.Decodes.bind (decodes_pullVarint hid)
  have htail := decodes_pullLengthPrefixed hdata rest
  by_cases hzero : offset = 0
  · have hbit : ¬(frameType &&& 0x04 ≠ 0) := by simp [hoff, hzero]
    simp only [if_neg hbit, if_pos hlen, hzero]
    exact htail.bind_pure _
  · simp only [if_pos (hoff.2 hzero), if_pos hlen, if_pos hzero]
    apply Parser.Decodes.bind (decodes_pullVarint hoffset)
    exact htail.bind_pure _

lemma decodes_stream {frame : Stream} (h : (Frame.stream frame).WellFormed) :
    parseFrame.Decodes frame.encode rest (.stream frame) := by
  obtain ⟨hid, hoffset, hdata⟩ := h
  obtain ⟨streamId, offset, data, fin⟩ := frame
  have hparse (frameType : ℕ) (hflags : frameParser frameType = some (parseStream frameType))
      (htype : frameType ≤ varintMax) (hlen : frameType &&& 0x02 ≠ 0) (hoff : frameType &&& 0x04 ≠ 0 ↔
        offset ≠ 0) :=
    decodes_parseFrame htype hflags
      (decodes_parseStream frameType hid hoffset hdata hlen hoff : Parser.Decodes _ _ rest _)
  simp only [Stream.encode, List.cons_append, List.nil_append]
  by_cases hzero : offset = 0
  · cases fin with
    | false => simpa [hzero] using hparse 0x0A rfl (by decide) (by decide) (by simp [hzero])
    | true => simpa [hzero] using hparse 0x0B rfl (by decide) (by decide) (by simp [hzero])
  · cases fin with
    | false => simpa [hzero] using hparse 0x0E rfl (by decide) (by decide) (by simp [hzero])
    | true => simpa [hzero] using hparse 0x0F rfl (by decide) (by decide) (by simp [hzero])

lemma decodes_connectionClose {frame : ConnectionClose} (h : (Frame.connectionClose frame).WellFormed) :
    parseFrame.Decodes frame.encode rest (.connectionClose frame) := by
  obtain ⟨hcode, hreason, hclosing⟩ := h
  obtain ⟨errorCode, reason, frameType⟩ := frame
  have htail := decodes_pullLengthPrefixed hreason rest
  cases frameType with
  | none =>
    apply decodes_parseFrame (by decide) rfl
    apply Parser.Decodes.bind (decodes_pullVarint hcode)
    exact htail.bind_pure _
  | some frameType =>
    apply decodes_parseFrame (by decide) rfl
    apply Parser.Decodes.bind (decodes_pullVarint hcode)
    apply Parser.Decodes.bind fun rest => (decodes_pullVarint (hclosing frameType rfl) rest).map some
    exact htail.bind_pure _

lemma decodes_newConnectionId {sequence retirePriorTo : ℕ} {connectionId resetToken : Bytes}
    (h : (Frame.newConnectionId sequence retirePriorTo connectionId resetToken).WellFormed) :
    parseFrame.Decodes (Frame.newConnectionId sequence retirePriorTo connectionId resetToken).encode rest
      (.newConnectionId sequence retirePriorTo connectionId resetToken) := by
  obtain ⟨hsequence, hretire, hid, htoken⟩ := h
  have hbyte : (UInt8.ofNat connectionId.length).toNat = connectionId.length := by
    rw [UInt8.toNat_ofNat']
    exact Nat.mod_eq_of_lt (by omega)
  apply decodes_parseFrame (by decide) rfl
  rw [if_pos (by omega)]
  apply Parser.Decodes.bind (decodes_pullVarint hsequence)
  apply Parser.Decodes.bind (decodes_pullVarint hretire)
  apply Parser.Decodes.bind fun rest => ⟨_, rfl, reads_pullUint8 _ rest⟩
  rw [hbyte]
  apply Parser.Decodes.bind fun rest => ⟨_, rfl, reads_pullBytes connectionId rest⟩
  rw [← htoken]
  exact .bind (fun rest => ⟨_, rfl, reads_pullBytes resetToken rest⟩) (.pure _ _)

lemma decodes_padding {length : ℕ} (h : 1 ≤ length) (hrest : rest.head? ≠ some 0) :
    parseFrame.Decodes (Frame.padding length).encode rest (.padding length) := by
  obtain ⟨more, rfl⟩ := Nat.exists_eq_add_of_le h
  have hframe := decodes_parseFrame (show 0 ≤ varintMax by decide) rfl (decodes_parsePadding more hrest)
  have hencode : concatEncoded [encodeVarint 0, .ok (List.replicate more 0)] =
    (Frame.padding (1 + more)).encode := by
    have hconcat := concatEncoded_append_ok (concatEncoded_singleton (encodeVarint 0))
      (concatEncoded_singleton (.ok (List.replicate more 0)))
    rwa [Nat.add_comm, Frame.encode, List.replicate_succ]
  rwa [hencode] at hframe

lemma decodes_frame (h : frame.WellFormed) (hrest : frame.isPadding = true → rest.head? ≠ some 0) :
    parseFrame.Decodes frame.encode rest frame := by
  cases frame with
  | padding length => exact decodes_padding h (hrest rfl)
  | ping => exact decodes_parseFrame (show 0x01 ≤ varintMax by decide) rfl (.pure _ _)
  | ack frame => exact decodes_ack h
  | resetStream streamId errorCode finalSize =>
    exact decodes_parseFrame (by decide) rfl (decodes_parse3 _ h.1 h.2.1 h.2.2)
  | stopSending streamId errorCode => exact decodes_parseFrame (by decide) rfl (decodes_parse2 _ h.1 h.2)
  | crypto frame =>
    apply decodes_parseFrame (by decide) rfl
    exact .bind (decodes_pullVarint h.1) ((decodes_pullLengthPrefixed h.2 rest).bind_pure _)
  | newToken token => exact decodes_parseFrame (by decide) rfl ((decodes_pullLengthPrefixed h rest).map _)
  | stream frame => exact decodes_stream h
  | maxData maximum => exact decodes_parseFrame (by decide) rfl (decodes_parse1 _ h)
  | maxStreamData streamId maximum => exact decodes_parseFrame (by decide) rfl (decodes_parse2 _ h.1 h.2)
  | maxStreams maximum bidirectional =>
    cases bidirectional with
    | true => exact decodes_parseFrame (show 0x12 ≤ varintMax by decide) rfl (decodes_parse1 _ h)
    | false => exact decodes_parseFrame (show 0x13 ≤ varintMax by decide) rfl (decodes_parse1 _ h)
  | dataBlocked limit => exact decodes_parseFrame (by decide) rfl (decodes_parse1 _ h)
  | streamDataBlocked streamId limit => exact decodes_parseFrame (by decide) rfl (decodes_parse2 _ h.1 h.2)
  | streamsBlocked limit bidirectional =>
    cases bidirectional with
    | true => exact decodes_parseFrame (show 0x16 ≤ varintMax by decide) rfl (decodes_parse1 _ h)
    | false => exact decodes_parseFrame (show 0x17 ≤ varintMax by decide) rfl (decodes_parse1 _ h)
  | newConnectionId sequence retirePriorTo connectionId resetToken => exact decodes_newConnectionId h
  | retireConnectionId sequence => exact decodes_parseFrame (by decide) rfl (decodes_parse1 _ h)
  | pathChallenge data => exact decodes_parseFrame (by decide) rfl ((decodes_pullBytes h rest).map _)
  | pathResponse data => exact decodes_parseFrame (by decide) rfl ((decodes_pullBytes h rest).map _)
  | connectionClose frame => exact decodes_connectionClose h
  | handshakeDone =>
    have hframe := decodes_parseFrame (show 0x1E ≤ varintMax by decide) rfl (.pure Frame.handshakeDone rest)
    rwa [concatEncoded_singleton] at hframe
  | datagram data => exact decodes_parseFrame (by decide) rfl ((decodes_pullLengthPrefixed h rest).map _)

end Decodes

section Yields

variable {size : ℕ}

def Frame.Parsed (size frameType : ℕ) (frame : Frame) : Prop :=
  (size ≤ varintMax → frame.WellFormed) ∧ (frame.isPadding = true ↔ frameType = 0)

lemma yields_parsePadding : parsePadding.Yields size (Frame.Parsed size 0) := by
  intro b hsize
  simp only [parsePadding, ensures_state, Frame.Parsed]
  refine ⟨?_, fun _ => Nat.le_add_right 1 _, by simp [Frame.isPadding]⟩
  simp only [Buffer.remaining, List.length_drop] at hsize ⊢
  omega

variable {P : Frame → Prop}

lemma yields_parse1 {frame : ℕ → Frame} (h : ∀ a ≤ varintMax, P (frame a)) : (parse1 frame).Yields size P :=
  (yields_pullVarint size).bind fun a ha => .pure (h a ha)

lemma yields_parse2 {frame : ℕ → ℕ → Frame}
    (h : ∀ a ≤ varintMax, ∀ b ≤ varintMax, P (frame a b)) : (parse2 frame).Yields size P :=
  (yields_pullVarint size).bind fun a ha => (yields_pullVarint size).bind fun b hb => .pure (h a ha b hb)

lemma yields_parse3 {frame : ℕ → ℕ → ℕ → Frame}
    (h : ∀ a ≤ varintMax, ∀ b ≤ varintMax, ∀ c ≤ varintMax, P (frame a b c)) : (parse3 frame).Yields size P :=
  (yields_pullVarint size).bind fun a ha => (yields_pullVarint size).bind fun b hb =>
    (yields_pullVarint size).bind fun c hc => .pure (h a ha b hb c hc)

lemma yields_parseAckRanges (count low high : ℕ) :
    (parseAckRanges count low).Yields size fun ranges =>
      (∀ range ∈ ranges, range.1 ≤ range.2) ∧ ((low, high) :: ranges).IsChain Apart := by
  induction count generalizing low high with
  | zero => exact .pure ⟨by simp, List.IsChain.singleton _⟩
  | succ count ih =>
    apply (yields_pullVarint size).bind
    intro gap _
    apply (yields_pullVarint size).bind
    intro length _
    apply Parser.Yields.raiseIf_bind
    intro hlow
    apply (ih (low - gap - 2 - length) (low - gap - 2)).bind
    rintro ranges ⟨hordered, hapart⟩
    refine .pure ⟨?_, List.isChain_cons_cons.2 ⟨?_, hapart⟩⟩
    · rintro range (_ | ⟨_, hmem⟩)
      · exact Nat.sub_le _ _
      · exact hordered range hmem
    · simp only [Apart]
      omega

lemma yields_parseEcn (frameType : ℕ) :
    (parseEcn frameType).Yields size fun ecn => ∀ counts ∈ ecn, counts.WellFormed := by
  apply Parser.Yields.ite
  · intro _
    apply (yields_pullVarint size).bind
    intro ect0 hect0
    apply (yields_pullVarint size).bind
    intro ect1 hect1
    apply (yields_pullVarint size).bind
    intro ce hce
    refine .pure ?_
    rintro _ ⟨⟩
    exact ⟨hect0, hect1, hce⟩
  · exact fun _ => .pure (by simp)

lemma yields_parseAck (htype : frameType ≠ 0) :
    (parseAck frameType).Yields size (Frame.Parsed size frameType) := by
  apply (yields_pullVarint size).bind
  intro largest hlargest
  apply (yields_pullVarint size).bind
  intro delay hdelay
  apply (yields_pullVarint size).bind
  intro rangeCount _
  apply (yields_pullVarint size).bind
  intro firstRange _
  apply Parser.Yields.raiseIf_bind
  intro hfirst
  apply (yields_parseAckRanges rangeCount (largest - firstRange) largest).bind
  rintro ranges ⟨hordered, hapart⟩
  apply (yields_parseEcn frameType).bind
  intro ecn hecn
  refine .pure ⟨fun _ => ⟨hlargest, hdelay, rfl, ?_, hapart, hecn⟩, by simp [Frame.isPadding, htype]⟩
  rintro range (_ | ⟨_, hmem⟩)
  · exact Nat.sub_le _ _
  · exact hordered range hmem

lemma yields_parseStream (htype : frameType ≠ 0) :
    (parseStream frameType).Yields size (Frame.Parsed size frameType) := by
  apply (yields_pullVarint size).bind
  intro streamId hid
  have hdone (offset : ℕ) (hoffset : offset ≤ varintMax) (data : Bytes)
    (hdata : data.length ≤ max size varintMax) :
      Frame.Parsed size frameType (.stream ⟨streamId, offset, data, frameType &&& 0x01 ≠ 0⟩) :=
    ⟨fun hsize => ⟨hid, hoffset, by simpa [hsize] using hdata⟩, by simp [Frame.isPadding, htype]⟩
  have hdata (offset : ℕ) (hoffset : offset ≤ varintMax) : Parser.Yields (do
      let data ← if frameType &&& 0x02 ≠ 0 then pullLengthPrefixed else pullRemaining
      return .stream ⟨streamId, offset, data, frameType &&& 0x01 ≠ 0⟩) size (Frame.Parsed size frameType) := by
    apply Parser.Yields.ite
    · exact fun _ => (yields_pullLengthPrefixed size).bind fun data h =>
        .pure (hdone offset hoffset data (h.trans (le_max_right _ _)))
    · exact fun _ => (yields_pullRemaining size).bind fun data h =>
        .pure (hdone offset hoffset data (h.trans (le_max_left _ _)))
  apply Parser.Yields.ite
  · exact fun _ => (yields_pullVarint size).bind hdata
  · exact fun _ => hdata 0 (Nat.zero_le _)

lemma yields_parseNewConnectionId : parseNewConnectionId.Yields size (Frame.Parsed size 0x18) := by
  apply (yields_pullVarint size).bind
  intro sequence hsequence
  apply (yields_pullVarint size).bind
  intro retirePriorTo hretire
  apply (yields_pullUint8 size).bind
  intro length _
  apply (yields_pullBytes length.toNat size).bind
  rintro connectionId ⟨hid, -⟩
  apply (yields_pullBytes 16 size).bind
  rintro resetToken ⟨htoken, -⟩
  have hlength := length.toNat_lt
  exact .pure ⟨fun _ => ⟨hsequence, hretire, by omega, htoken⟩, by simp [Frame.isPadding]⟩

lemma yields_parseConnectionClose (htype : frameType ≠ 0) :
    (parseConnectionClose frameType).Yields size (Frame.Parsed size frameType) := by
  apply (yields_pullVarint size).bind
  intro errorCode hcode
  have hreason (closing : Option ℕ) (hclosing : ∀ frameType ∈ closing, frameType ≤ varintMax) : Parser.Yields (do
      let reason ← pullLengthPrefixed
      return .connectionClose ⟨errorCode, reason, closing⟩) size (Frame.Parsed size frameType) := by
    apply (yields_pullLengthPrefixed size).bind
    intro reason hreason
    exact .pure ⟨fun _ => ⟨hcode, hreason, hclosing⟩, by simp [Frame.isPadding, htype]⟩
  apply Parser.Yields.ite
  · intro _
    have hclosing : (some <$> pullVarint).Yields size fun closing =>
      ∀ frameType ∈ closing, frameType ≤ varintMax :=
      (yields_pullVarint size).map fun a ha => by simpa using ha
    exact hclosing.bind hreason
  · exact fun _ => hreason none (by simp)

lemma Frame.Parsed.of_wellFormed (h : frame.WellFormed) (hframe : frame.isPadding = false)
    (htype : frameType ≠ 0) : frame.Parsed size frameType :=
  ⟨fun _ => h, by simp [hframe, htype]⟩

lemma frameParser_yields (h : frameParser frameType = some parser) :
    parser.Yields size (Frame.Parsed size frameType) := by
  simp only [frameParser] at h
  split at h
  all_goals try cases h
  · exact yields_parsePadding
  · exact .pure (.of_wellFormed trivial rfl (by decide))
  · exact yields_parseAck (by decide)
  · exact yields_parseAck (by decide)
  · exact yields_parse3 fun _ ha _ hb _ hc => .of_wellFormed ⟨ha, hb, hc⟩ rfl (by decide)
  · exact yields_parse2 fun _ ha _ hb => .of_wellFormed ⟨ha, hb⟩ rfl (by decide)
  · exact (yields_pullVarint size).bind fun _ hoffset => (yields_pullLengthPrefixed size).bind fun _ hdata =>
      .pure (.of_wellFormed ⟨hoffset, hdata⟩ rfl (by decide))
  · exact (yields_pullLengthPrefixed size).map fun _ h => .of_wellFormed h rfl (by decide)
  · exact yields_parse1 fun _ ha => .of_wellFormed ha rfl (by decide)
  · exact yields_parse2 fun _ ha _ hb => .of_wellFormed ⟨ha, hb⟩ rfl (by decide)
  · exact yields_parse1 fun _ ha => .of_wellFormed ha rfl (by decide)
  · exact yields_parse1 fun _ ha => .of_wellFormed ha rfl (by decide)
  · exact yields_parse1 fun _ ha => .of_wellFormed ha rfl (by decide)
  · exact yields_parse2 fun _ ha _ hb => .of_wellFormed ⟨ha, hb⟩ rfl (by decide)
  · exact yields_parse1 fun _ ha => .of_wellFormed ha rfl (by decide)
  · exact yields_parse1 fun _ ha => .of_wellFormed ha rfl (by decide)
  · exact yields_parseNewConnectionId
  · exact yields_parse1 fun _ ha => .of_wellFormed ha rfl (by decide)
  · exact (yields_pullBytes 8 size).map fun _ h => .of_wellFormed h.1 rfl (by decide)
  · exact (yields_pullBytes 8 size).map fun _ h => .of_wellFormed h.1 rfl (by decide)
  · exact yields_parseConnectionClose (by decide)
  · exact yields_parseConnectionClose (by decide)
  · exact .pure (.of_wellFormed trivial rfl (by decide))
  · exact (yields_pullRemaining size).map fun _ h => ⟨h.trans, by simp [Frame.isPadding]⟩
  · exact (yields_pullLengthPrefixed size).map fun _ h => .of_wellFormed h rfl (by decide)
  · split_ifs at h with hrange
    cases h
    exact yields_parseStream (by omega)

lemma parsePadding_stops (b : Buffer) :
    Ensures parsePadding b fun _ b' => b'.rest.head? ≠ some 0 := by
  simp only [parsePadding, ensures_state]
  induction b.rest with
  | nil => simp
  | cons byte rest ih =>
    by_cases hzero : byte = 0
    · simpa [List.takeWhile_cons, hzero] using ih
    · simp [hzero]

lemma frameParser_stops (h : frameParser frameType = some parser) (b : Buffer) :
    Ensures parser b fun frame b' => frame.isPadding = true → b'.rest.head? ≠ some 0 := by
  by_cases htype : frameType = 0
  · subst htype
    cases h
    exact (parsePadding_stops b).imp_true fun _ _ hstops _ => hstops
  · apply (frameParser_yields h b le_rfl).imp_true
    exact fun _ _ hframe hpadding => absurd (hframe.2.2.1 hpadding) htype

lemma ensures_parseFrame (b : Buffer) :
    Ensures parseFrame b fun frame b' => b'.remaining < b.remaining ∧
      (b.remaining ≤ varintMax + 1 → frame.WellFormed) ∧ (frame.isPadding = true ↔ b.rest.head? = some 0) ∧
      (frame.isPadding = true → b'.rest.head? ≠ some 0) := by
  simp only [parseFrame, ensures_state]
  apply (ensures_pullVarint b).imp_true
  rintro frameType b₁ ⟨hmax, hless, hzero, hone⟩
  simp only [ensures_flow]
  refine ⟨fun shortest hshortest => ⟨fun _ => trivial, fun hlength => ?_⟩, fun _ _ => trivial⟩
  cases hparser : frameParser frameType with
  | none => trivial
  | some parser =>
    apply ((frameParser_yields hparser b₁ le_rfl).and (frameParser_stops hparser b₁)).imp_true
    rintro frame b₂ ⟨⟨hleft, hframe, htype⟩, hstops⟩
    refine ⟨hleft.trans_lt hless, fun hsize => hframe (by omega), ⟨fun hpadding => ?_, fun hhead => ?_⟩, hstops⟩
    · obtain rfl := htype.1 hpadding
      obtain rfl : [0] = shortest := Except.ok.inj hshortest
      have hhead := hone (by simp only [List.length_singleton] at hlength; omega)
      obtain ⟨byte, hbyte, hnat⟩ := Option.map_eq_some_iff.1 hhead
      have hbyte0 : byte = 0 := UInt8.toNat_inj.1 hnat
      rw [hbyte, hbyte0]
    · exact htype.2 (hzero hhead)

lemma ensures_parseFramesLoop (rounds : ℕ) (b : Buffer) (hsize : b.remaining ≤ varintMax + 1) :
    Ensures (parseFramesLoop rounds) b fun frames _ => (∀ frame ∈ frames, frame.WellFormed) ∧
      frames.IsChain Frame.Follows ∧ (b.rest.head? ≠ some 0 → ∀ frame ∈ frames.head?, frame.isPadding = false) ∧
      (0 < rounds → b.rest ≠ [] → frames ≠ []) := by
  induction rounds generalizing b with
  | zero => exact ⟨by simp, .nil, by simp, by simp⟩
  | succ rounds ih =>
    simp only [parseFramesLoop, ensures_flow]
    refine ⟨fun hempty => ⟨by simp, .nil, by simp, fun _ hne => ?_⟩, fun _ => ?_⟩
    · exact absurd (List.isEmpty_iff.1 hempty) hne
    apply (ensures_parseFrame b).imp_true
    rintro frame b₁ ⟨hless, hframe, hpadding, hstops⟩
    apply (ih b₁ (hless.le.trans hsize)).imp_true
    rintro frames b₂ ⟨hframes, hchain, hhead, -⟩
    refine ⟨?_, ?_, ?_, fun _ _ => List.cons_ne_nil _ _⟩
    · rintro _ (_ | ⟨_, hmem⟩)
      · exact hframe hsize
      · exact hframes _ hmem
    · refine List.isChain_cons.2 ⟨fun next hnext => ?_, hchain⟩
      rintro ⟨hbefore, hafter⟩
      rw [hhead (hstops hbefore) next hnext] at hafter
      cases hafter
    · rintro hnonzero _ ⟨⟩
      exact Bool.eq_false_iff.2 (hnonzero ∘ hpadding.1)

end Yields

section RoundTrip

lemma reads_frame_starts {data rest : Bytes} (h : parseFrame.Reads data rest frame) :
    0 < data.length ∧ (frame.isPadding = true ↔ (data ++ rest).head? = some 0) := by
  obtain ⟨hless, -, hpadding, -⟩ := (ensures_parseFrame ⟨data ++ rest, 0⟩).of_ok (eq_ok_of_ensures (h 0))
  simp only [Buffer.remaining, List.length_append] at hless
  exact ⟨by omega, hpadding⟩

lemma reads_parseFramesLoop_nil (rounds : ℕ) : (parseFramesLoop rounds).Reads [] [] [] := by
  intro position
  cases rounds <;> simp [parseFramesLoop, Buffer.isEmpty]

variable {frames : List Frame}

lemma reads_parseFramesLoop_cons {head tail : Bytes} {rounds : ℕ}
    (hhead : parseFrame.Reads head tail frame) (htail : (parseFramesLoop rounds).Reads tail [] frames) :
    (parseFramesLoop (rounds + 1)).Reads (head ++ tail) [] (frame :: frames) := by
  intro position
  have hnonempty : (⟨head ++ tail, position⟩ : Buffer).isEmpty = false := by
    cases head with
    | nil => cases (reads_frame_starts hhead).1
    | cons byte head => rfl
  simp only [List.append_nil, parseFramesLoop, ensures_bind, ensures_get, hnonempty, Bool.false_eq_true, if_false]
  apply (hhead position).mono
  · rintro _ _ ⟨rfl, rfl⟩
    have hnext := htail (position + head.length)
    rw [List.append_nil] at hnext
    apply hnext.mono
    · rintro _ _ ⟨rfl, rfl⟩
      rw [ensures_pure, List.length_append, Nat.add_assoc]
      exact ⟨rfl, rfl⟩
    · exact fun _ _ hfalse => hfalse
  · exact fun _ _ hfalse => hfalse

lemma encodeFrames_reads (hframes : ∀ frame ∈ frames, frame.WellFormed) (hchain : frames.IsChain Frame.Follows) :
    ∃ payload, encodeFrames frames = .ok payload ∧
      (∀ rounds, payload.length ≤ rounds → (parseFramesLoop rounds).Reads payload [] frames) ∧
      (payload.head? = some 0 → ∃ frame ∈ frames.head?, frame.isPadding = true) := by
  induction frames with
  | nil => exact ⟨[], rfl, fun rounds _ => reads_parseFramesLoop_nil rounds, by simp⟩
  | cons frame frames ih =>
    obtain ⟨hfirst, hchain⟩ := List.isChain_cons.1 hchain
    obtain ⟨tail, htail, hloop, hzero⟩ := ih (fun frame h => hframes frame (List.mem_cons_of_mem _ h)) hchain
    have hrest : frame.isPadding = true → tail.head? ≠ some 0 := by
      intro hpadding hhead
      obtain ⟨next, hnext, hnextPadding⟩ := hzero hhead
      exact hfirst next hnext ⟨hpadding, hnextPadding⟩
    obtain ⟨head, hhead, hreads⟩ := decodes_frame (hframes frame List.mem_cons_self) hrest
    obtain ⟨hpos, hpadding⟩ := reads_frame_starts hreads
    refine ⟨head ++ tail, concatEncoded_append_ok ((concatEncoded_singleton _).trans hhead) htail,
      ?_, fun hstart =>
      ⟨frame, rfl, hpadding.2 hstart⟩⟩
    intro rounds hrounds
    rw [List.length_append] at hrounds
    obtain ⟨rounds, rfl⟩ := Nat.exists_eq_add_of_le' (show 1 ≤ rounds by omega)
    exact reads_parseFramesLoop_cons hreads (hloop rounds (by omega))

lemma parseFrames_encodeFrames (h : Payload frames) :
    ∃ payload, encodeFrames frames = .ok payload ∧ parseFrames payload = .ok frames := by
  obtain ⟨payload, hpayload, hloop, -⟩ := encodeFrames_reads h.wellFormed h.separate
  have hrun := (hloop payload.length le_rfl).run_eq_ok
  refine ⟨payload, hpayload, ?_⟩
  have hne : payload ≠ [] := by
    rintro rfl
    exact h.nonempty (Except.ok.inj hrun).symm
  rw [parseFrames, if_neg hne, hrun]

lemma payload_of_parseFrames {payload : Bytes} (hsize : payload.length ≤ 2 ^ 62)
    (h : parseFrames payload = .ok frames) : Payload frames := by
  simp only [parseFrames] at h
  split_ifs at h with hempty
  have hspec := ensures_parseFramesLoop payload.length ⟨payload, 0⟩ hsize
  obtain ⟨hframes, hchain, -, hne⟩ := Parser.of_run_eq_ok hspec h
  exact ⟨hne (List.length_pos_iff.2 hempty) hempty, hframes, hchain⟩

theorem frames_round_trip :
    (∀ frames, Payload frames → ∃ payload, encodeFrames frames = .ok payload ∧ parseFrames payload = .ok frames) ∧
    ∀ payload frames, payload.length ≤ 2 ^ 62 → parseFrames payload = .ok frames →
      Payload frames ∧ ∃ again, encodeFrames frames = .ok again ∧ parseFrames again = .ok frames :=
  ⟨fun _ => parseFrames_encodeFrames, fun _ _ hsize h =>
    ⟨payload_of_parseFrames hsize h, parseFrames_encodeFrames (payload_of_parseFrames hsize h)⟩⟩

theorem frames_round_trip_ack :
    Payload [.ack ⟨9, 3, [(7, 9), (2, 4)], none⟩, .padding 3, .stream ⟨4, 0, [1, 2], true⟩] ∧
      ∃ payload, encodeFrames [.ack ⟨9, 3, [(7, 9), (2, 4)], none⟩, .padding 3, .stream ⟨4, 0, [1, 2], true⟩] =
        .ok payload ∧
      parseFrames payload =
        .ok [.ack ⟨9, 3, [(7, 9), (2, 4)], none⟩, .padding 3, .stream ⟨4, 0, [1, 2], true⟩] := by
  have hpayload : Payload [.ack ⟨9, 3, [(7, 9), (2, 4)], none⟩, .padding 3, .stream ⟨4, 0, [1, 2], true⟩] := by
    refine ⟨by simp, ?_, by simp [Frame.Follows, Frame.isPadding]⟩
    rintro _ (_ | ⟨_, _ | ⟨_, _ | ⟨_, ⟨⟩⟩⟩⟩)
    · exact ⟨by decide, by decide, rfl, by decide, by simp [Apart], by simp⟩
    · exact show 1 ≤ 3 by decide
    · exact ⟨by decide, by decide, by decide⟩
  exact ⟨hpayload, frames_round_trip.1 _ hpayload⟩

lemma decodes_pullRemaining (data : Bytes) : pullRemaining.Decodes (concatEncoded [.ok data]) [] data := by
  rw [concatEncoded_singleton]
  refine ⟨data, rfl, fun position => ?_⟩
  simp [pullRemaining, ensures_pullBytes, Buffer.remaining]

lemma parseFrames_datagram (data : Bytes) : parseFrames (0x30 :: data) = .ok [.datagram data] := by
  obtain ⟨payload, hpayload, hreads⟩ :=
    decodes_parseFrame (show 0x30 ≤ varintMax by decide) rfl ((decodes_pullRemaining data).map Frame.datagram)
  have hconcat := concatEncoded_append_ok (concatEncoded_singleton (encodeVarint 0x30))
    (concatEncoded_singleton (.ok data))
  obtain rfl : 0x30 :: data = payload := Except.ok.inj (hconcat.symm.trans hpayload)
  have hloop := (reads_parseFramesLoop_cons hreads (reads_parseFramesLoop_nil data.length)).run_eq_ok
  rw [List.append_nil] at hloop
  rw [parseFrames, if_neg (List.cons_ne_nil _ _), List.length_cons, hloop]

lemma encodeFrames_datagram (h : varintMax < data.length) :
    encodeFrames [.datagram data] = .error (.value s!"varint out of range: {data.length}") := by
  have hlength : encodeVarint data.length = .error (.value s!"varint out of range: {data.length}") := by
    have hlarge : 0x3FFFFFFF < data.length := (show 0x3FFFFFFF < varintMax by decide).trans h
    simp only [encodeVarint]
    rw [if_neg (by omega), if_neg (by omega), if_neg (by omega), if_neg (by omega)]
  rw [encodeFrames, List.map_singleton, concatEncoded_singleton, Frame.encode, concatEncoded,
    concatEncoded, hlength]
  rfl

theorem datagram_too_long :
    parseFrames (0x30 :: List.replicate (2 ^ 62) 0) = .ok [.datagram (List.replicate (2 ^ 62) 0)] ∧
      ∃ reason, encodeFrames [.datagram (List.replicate (2 ^ 62) 0)] = .error (.value reason) := by
  refine ⟨parseFrames_datagram _, _, encodeFrames_datagram ?_⟩
  rw [List.length_replicate]
  decide

end RoundTrip

end Dsquic.Wire
