import Dsquic.Connection.Dispatch

/-!
What a datagram does of which no packet opens: the headers alone move the peer's connection ID, and the
idle timer starts again.
-/

namespace Dsquic.Connection

open Lib Wire Streams Recovery

variable {env : Env} {c c' c'' : Conn env}

namespace Conn

def arrived (c : Conn env) (data : Bytes) (source : Option env.Destination) : Conn env :=
  { c with
    bytesReceived := c.bytesReceived + data.length
    destination := c.destination <|> source }

def acceptsVersionNegotiation (c : Conn env) (data : Bytes) : Bool :=
  c.isClient && isVersionNegotiation data && !c.peerCidConfirmed &&
    match parseVersionNegotiation data with
    | .ok packet => !(c.config.version ∈ packet.versions ∨ packet.destinationCid ≠ c.hostCid ∨
        packet.sourceCid ≠ c.peerCid)
    | .error _ => false

def acceptsRetry (c : Conn env) (data : Bytes) : Bool :=
  c.isClient && Primitives.isRetry data && !(c.retryToken ≠ [] ∨ c.peerCidConfirmed) &&
    match env.parseRetry data c.initialDcid with
    | .ok packet => packet.token ≠ []
    | .error _ => false

def opens (c : Conn env) (located : Located) (now : ℚ) : Bool :=
  let zeroRtt : Bool := located.level = .oneRtt && isLong (located.packet.headD 0)
  admits c located.level zeroRtt &&
    (c.unprotect located.level located.packet located.pnOffset now zeroRtt).isOk

def Settled (c : Conn env) : Prop := c.peerCidConfirmed = true ∧ (c.isClient = false → c.peerCid ≠ [])

structure Untouched (c c' : Conn env) : Prop where
  same : c' = { c with peerCid := c'.peerCid, peerCidConfirmed := c'.peerCidConfirmed }
  settled : c.Settled → c'.peerCid = c.peerCid ∧ c'.peerCidConfirmed = c.peerCidConfirmed

end Conn

def inert (now : ℚ) : ℕ → Bytes → Conn env → Bool
  | 0, _, _ => true
  | rounds + 1, data, c =>
    if data = [] then true
    else !c.acceptsVersionNegotiation data && !c.acceptsRetry data &&
      match locatePacket data c with
      | .ok (some located) c' => !c'.opens located now && inert now rounds (data.drop located.packetEnd) c'
      | _ => true

section Frame

lemma Conn.Untouched.refl (c : Conn env) : c.Untouched c := ⟨rfl, fun _ => ⟨rfl, rfl⟩⟩

lemma Conn.Untouched.trans (h : c.Untouched c') (h' : c'.Untouched c'') : c.Untouched c'' := by
  refine ⟨?_, fun hsettled => ?_⟩
  · have hsame := h'.same
    rw [h.same] at hsame
    exact hsame
  · obtain ⟨hcid, hconfirmed⟩ := h.settled hsettled
    have hclient : c'.isClient = c.isClient := by rw [h.same]
    obtain ⟨hcid', hconfirmed'⟩ := h'.settled
      ⟨hconfirmed.trans hsettled.1, fun hserver => hcid ▸ hsettled.2 (hclient ▸ hserver)⟩
    exact ⟨hcid'.trans hcid, hconfirmed'.trans hconfirmed⟩

end Frame

variable {data : Bytes} {packet : Bytes} {level : Level} {pnOffset : ℕ} {zeroRtt : Bool} {now : ℚ}

section Headers

open Buffer Parser

variable {e : Raised}

lemma parseLongHeader_error (h : parseLongHeader data = .error e) :
    isHeaderFailure e = true := by
  have hread : ∀ reason, isHeaderFailure (.bufferRead reason) = true := fun _ => rfl
  have hparser : Raises (fun e => isHeaderFailure e = true) longHeaderParser := by
    refine (raises_pullUint8 hread).bind fun _ => .raiseIf_bind rfl (.raiseIf_bind rfl ?_)
    refine (raises_pullUint32 hread).bind fun _ => .raiseIf_bind rfl ?_
    refine (raises_pullShort hread).bind fun _ => (raises_pullShort hread).bind fun _ => ?_
    refine .raiseIf_bind rfl (.raiseIf_bind rfl (.raiseIf_bind rfl ?_))
    refine (raises_pullToken hread _).bind fun _ => (raises_pullVarint hread).bind fun _ => ?_
    exact Raises.get.bind fun _ => .pure _
  exact hparser.of_run_eq_error h

lemma parseShortHeader_error {cidLength : ℕ}
    (h : parseShortHeader data cidLength = .error e) : isHeaderFailure e = true := by
  have hread : ∀ reason, isHeaderFailure (.bufferRead reason) = true := fun _ => rfl
  have hparser : Raises (fun e => isHeaderFailure e = true) (shortHeaderParser cidLength) := by
    refine (raises_pullUint8 hread).bind fun _ => .raiseIf_bind rfl (.raiseIf_bind rfl ?_)
    exact (raises_pullBytes hread cidLength).bind fun _ => Raises.get.bind fun _ => .pure _
  exact hparser.of_run_eq_error h

lemma raises_pullVersions {E : Raised → Prop} (hread : ∀ reason, E (.bufferRead reason)) (rounds : ℕ) :
    Raises E (pullVersions rounds) := by
  induction rounds with
  | zero => exact .pure _
  | succ rounds ih =>
    refine Raises.get.bind fun b => ?_
    split_ifs
    · exact .pure _
    · exact (raises_pullUint32 hread).bind fun _ => ih.bind fun _ => .pure _

lemma parseVersionNegotiation_error (h : parseVersionNegotiation data = .error e) :
    isHeaderFailure e = true := by
  have hread : ∀ reason, isHeaderFailure (.bufferRead reason) = true := fun _ => rfl
  refine Raises.of_run_eq_error (E := fun e => isHeaderFailure e = true) ?_ h
  refine (raises_pullShort hread).bind fun _ => (raises_pullShort hread).bind fun _ => ?_
  exact (raises_pullVersions hread data.length).bind fun _ => .pure _

variable {prims : Primitives} {keys : PacketKeys}

lemma retryIntegrityTag_error {dcid unsigned : Bytes}
    (h : prims.retryIntegrityTag dcid unsigned = .error e) : isConnectionError e = false := by
  simp only [Primitives.retryIntegrityTag, singleByte] at h
  split_ifs at h
  · cases h
  · cases h
    rfl

lemma parseRetry_error {data dcid : Bytes} (h : prims.parseRetry data dcid = .error e) :
    isConnectionError e = false := by
  have hread : ∀ reason, isConnectionError (.bufferRead reason) = false := fun _ => rfl
  simp only [Primitives.parseRetry] at h
  split_ifs at h
  · cases h
    rfl
  · refine Raises.of_run_eq_error (E := fun e => isConnectionError e = false) ?_ h
    refine (raises_pullUint8 hread).bind fun _ => .raiseIf_bind rfl ?_
    refine (raises_pullUint32 hread).bind fun _ => .raiseIf_bind rfl (.raiseIf_bind rfl ?_)
    refine (raises_pullShort hread).bind fun _ => (raises_pullShort hread).bind fun _ => .raiseIf_bind rfl ?_
    refine .lift_bind (fun _ he => retryIntegrityTag_error he) fun _ => .raiseIf_bind rfl ?_
    exact Raises.get.bind fun _ => .pure _

lemma isConnectionError_of_header (h : isHeaderFailure e = true) : isConnectionError e = false := by
  cases e <;> first | rfl | cases h

lemma removeHeaderProtection_error
    {largest : ℤ} (h : prims.removeHeaderProtection keys packet pnOffset largest = .error e) :
    isConnectionError e = false := by
  simp only [Primitives.removeHeaderProtection] at h
  split_ifs at h
  cases h
  rfl

lemma decryptPayload_error {unprotected : Primitives.UnprotectedHeader}
    (h : prims.decryptPayload keys unprotected = .error e) : isConnectionError e = false := by
  rcases bind_eq_error.1 h with hnonce | ⟨nonce, -, h⟩
  · rcases bind_eq_error.1 hnonce with hnumber | ⟨number, -, hpure⟩
    · simp only [intToBytes] at hnumber
      split_ifs at hnumber
      cases hnumber
      rfl
    · cases hpure
  · split at h
    · cases h
    · cases h
      rfl

lemma receiveKeys_error {space : Space PacketKeys Bytes} {revealed : Space.Revealed}
    {confirmed : Bool} (h : space.receiveKeys level revealed confirmed now = .error e) :
    isConnectionError e = false := by
  simp only [Space.receiveKeys] at h
  cases hkeys : space.keysRecv with
  | none =>
    rw [hkeys] at h
    cases h
    rfl
  | some current =>
    rw [hkeys] at h
    cases hprevious : space.keysRecvPrevious <;> cases hnext : space.keysRecvNext <;>
      simp only [hprevious, hnext] at h <;> split_ifs at h

lemma unprotect_error
    (h : c.unprotect level packet pnOffset now zeroRtt = .error e) : isConnectionError e = false := by
  simp only [Conn.unprotect] at h
  split_ifs at h
  · split at h
    · cases h
      rfl
    · rcases bind_eq_error.1 h with h | ⟨unprotected, -, h⟩
      · exact removeHeaderProtection_error h
      · rcases bind_eq_error.1 h with h | ⟨payload, -, h⟩
        · exact decryptPayload_error h
        · cases h
  · split at h
    · cases h
      rfl
    · rcases bind_eq_error.1 h with h | ⟨unprotected, -, h⟩
      · exact removeHeaderProtection_error h
      · rcases bind_eq_error.1 h with h | ⟨⟨keys, updating⟩, -, h⟩
        · exact receiveKeys_error h
        · rcases bind_eq_error.1 h with h | ⟨payload, -, h⟩
          · exact decryptPayload_error h
          · cases h

end Headers

section Loop

def Harmless {α : Type} (m : M env α) (c : Conn env) : Prop :=
  Ensures m c (fun _ => c.Untouched) fun e c' => c.Untouched c' ∧ isConnectionError e = false

lemma handleVersionNegotiation_harmless (hclient : c.isClient = true)
    (hdata : isVersionNegotiation data = true) (h : c.acceptsVersionNegotiation data = false) :
    Harmless (handleVersionNegotiation data) c := by
  simp only [Harmless, handleVersionNegotiation, ensures_flow]
  refine ⟨fun _ => .refl c, fun hunconfirmed => ?_⟩
  simp only [Conn.acceptsVersionNegotiation, hclient, hdata, hunconfirmed, Bool.not_false, Bool.and_self,
    Bool.true_and] at h
  cases hparse : parseVersionNegotiation data with
  | error e =>
    have hheader := parseVersionNegotiation_error hparse
    cases e <;> first | exact .refl c | exact ⟨.refl c, isConnectionError_of_header hheader⟩
  | ok packet =>
    simp only [hparse, Bool.not_eq_false', decide_eq_true_eq] at h
    simp only [if_pos h, ensures_pure]
    exact .refl c

lemma handleRetry_harmless (hclient : c.isClient = true) (hdata : Primitives.isRetry data = true)
    (h : c.acceptsRetry data = false) : Harmless (handleRetry data) c := by
  simp only [Harmless, handleRetry, ensures_flow]
  refine ⟨fun _ => .refl c, fun hfirst => ?_⟩
  simp only [Conn.acceptsRetry, hclient, hdata, hfirst, decide_false, Bool.not_false, Bool.and_self,
    Bool.true_and] at h
  cases hparse : env.parseRetry data c.initialDcid with
  | error e =>
    rw [ensures_raiseIf]
    exact ⟨fun _ => ⟨.refl c, parseRetry_error hparse⟩, fun _ => .refl c⟩
  | ok packet =>
    have htoken : packet.token = [] := by simpa [hparse] using h
    simp only [if_pos htoken, ensures_pure]
    exact .refl c

lemma adoptClientInitial_harmless (dcid scid : Bytes) (hserver : c.isClient = false) (htls : c.tls.isSome = true) :
    Harmless (adoptClientInitial dcid scid) c := by
  have hsome : ¬ c.tls.isNone = true := by simpa using Option.isSome_iff_ne_none.1 htls
  simp only [Harmless, adoptClientInitial, ensures_flow]
  refine ⟨fun hnone => absurd hnone hsome, fun _ => ?_⟩
  split_ifs with hempty
  · exact ⟨rfl, fun hsettled => absurd hempty (hsettled.2 hserver)⟩
  · exact .refl c

lemma noteLongHeader_harmless (header : LongHeader) (level : Level)
    (hadopted : c.isClient = false → c.tls.isSome = true) : Harmless (noteLongHeader header level) c := by
  simp only [Harmless, noteLongHeader, ensures_flow]
  refine ⟨fun h => ?_, fun _ => ⟨fun h => ?_, fun _ => .refl c⟩⟩
  · have hserver : c.isClient = false := by simpa using h.1
    exact adoptClientInitial_harmless _ _ hserver (hadopted hserver)
  · exact ⟨rfl, fun hsettled => absurd hsettled.1 h.2⟩

lemma locateLong_harmless (data : Bytes) (hadopted : c.isClient = false → c.tls.isSome = true) :
    Harmless (locateLong data) c := by
  simp only [Harmless, locateLong, ensures_flow]
  refine ⟨fun header _ => ?_, fun e he => ⟨.refl c, isConnectionError_of_header (parseLongHeader_error he)⟩⟩
  cases levelOf header.packetType with
  | none => exact .refl c
  | some level =>
    simp only [ensures_flow]
    exact ⟨fun _ => .refl c, fun _ => noteLongHeader_harmless header level hadopted⟩

lemma locatePacket_harmless (data : Bytes) (hadopted : c.isClient = false → c.tls.isSome = true)
    (hversion : c.acceptsVersionNegotiation data = false) (hretry : c.acceptsRetry data = false) :
    Harmless (locatePacket data) c := by
  simp only [Harmless, locatePacket, ensures_flow]
  refine ⟨fun _ => ⟨fun _ _ => .refl c, fun e he => ?_⟩,
    fun _ => ⟨fun h => ?_, fun _ => ⟨fun h => ?_, fun _ => ?_⟩⟩⟩
  · exact ⟨.refl c, isConnectionError_of_header (parseShortHeader_error he)⟩
  · exact handleVersionNegotiation_harmless h.1 h.2 hversion
  · exact handleRetry_harmless h.1 h.2 hretry
  · exact locateLong_harmless data hadopted

lemma decrypt_closed (h : (c.unprotect level packet pnOffset now zeroRtt).isOk = false) :
    Ensures (decrypt level packet pnOffset now zeroRtt) c (fun decrypted c' => decrypted = none ∧ c' = c)
      fun e c' => c' = c ∧ isConnectionError e = false := by
  simp only [decrypt, ensures_state]
  cases hunprotect : c.unprotect level packet pnOffset now zeroRtt with
  | ok result => simp [hunprotect, Except.isOk, Except.toBool] at h
  | error e =>
    have hescapes := unprotect_error hunprotect
    cases e <;> first | exact ⟨rfl, rfl⟩ | exact ⟨rfl, hescapes⟩

lemma processPacket_harmless (data : Bytes) (now : ℚ) (ecn : ℕ)
    (hadopted : c.isClient = false → c.tls.isSome = true)
    (hversion : c.acceptsVersionNegotiation data = false) (hretry : c.acceptsRetry data = false)
    (hclosed : ∀ located c', locatePacket data c = .ok (some located) c' → c'.opens located now = false) :
    Ensures (processPacket data now ecn) c
      (fun consumed c' => c.Untouched c' ∧ (consumed ≠ 0 →
        ∃ located, locatePacket data c = .ok (some located) c' ∧ consumed = located.packetEnd))
      fun e c' => c.Untouched c' ∧ isConnectionError e = false := by
  simp only [processPacket, ensures_bind, ensures_tryCatch]
  apply ((locatePacket_harmless data hadopted hversion hretry).and (ensures_self (locatePacket data) c)).mono
  · rintro (_ | located) c₁ ⟨huntouched, heq⟩
    · exact ⟨huntouched, fun h => absurd rfl h⟩
    · have hnot := hclosed located c₁ heq
      simp only [Conn.opens, Bool.and_eq_false_iff] at hnot
      simp only [ensures_flow]
      refine ⟨fun hadmits => ?_, fun _ => ⟨huntouched, fun _ => ⟨located, heq, rfl⟩⟩⟩
      rw [openPacket, ensures_bind]
      have hclosed := hnot.resolve_left (by rw [hadmits]; exact Bool.noConfusion)
      apply (decrypt_closed hclosed).mono
      · rintro _ _ ⟨rfl, rfl⟩
        exact ⟨huntouched, fun _ => ⟨located, heq, rfl⟩⟩
      · rintro e _ ⟨rfl, he⟩
        exact ⟨huntouched, he⟩
  · rintro e c₁ ⟨⟨huntouched, he⟩, -⟩
    split_ifs
    · exact ⟨huntouched, fun h => absurd rfl h⟩
    · exact ⟨huntouched, he⟩

lemma processPackets_harmless (now : ℚ) (ecn rounds : ℕ) (data : Bytes)
    (hadopted : c.isClient = false → c.tls.isSome = true) (h : inert now rounds data c = true) :
    Harmless (processPackets now ecn rounds data) c := by
  induction rounds generalizing data c with
  | zero => exact .refl c
  | succ rounds ih =>
    simp only [inert] at h
    rw [Harmless, processPackets, ensures_ite]
    refine ⟨fun _ => .refl c, fun hdata => ?_⟩
    simp only [if_neg hdata, Bool.and_eq_true, Bool.not_eq_true'] at h
    obtain ⟨⟨hversion, hretry⟩, hrest⟩ := h
    have hlocated : ∀ located c', locatePacket data c = .ok (some located) c' → c'.opens located now = false ∧
        inert now rounds (data.drop located.packetEnd) c' = true := by
      intro located c' heq
      simpa [heq] using hrest
    rw [ensures_bind]
    apply (processPacket_harmless data now ecn hadopted hversion hretry fun located c' heq =>
      (hlocated located c' heq).1).imp
    rintro consumed c₁ ⟨huntouched, hconsumed⟩
    rw [ensures_ite]
    refine ⟨fun _ => huntouched, fun hsome => ?_⟩
    obtain ⟨located, heq, rfl⟩ := hconsumed hsome
    have hadopted₁ : c₁.isClient = false → c₁.tls.isSome = true := by
      rw [huntouched.same]
      exact hadopted
    apply (ih (data.drop located.packetEnd) hadopted₁ (hlocated located c₁ heq).2).mono
    · exact fun _ _ h => huntouched.trans h
    · exact fun _ _ h => ⟨huntouched.trans h.1, h.2⟩

end Loop

/-- What a datagram of which nothing opens may change: the counter, an unknown destination, the idle timer,
and a peer's connection ID that is not settled. -/
structure Conn.Disturbed (c : Conn env) (data : Bytes) (now : ℚ) (source : Option env.Destination)
    (c' : Conn env) : Prop where
  same : c' = { c.arrived data source with
    peerCid := c'.peerCid
    peerCidConfirmed := c'.peerCidConfirmed
    idleStarted := c'.idleStarted }
  settled : c.Settled → c'.peerCid = c.peerCid ∧ c'.peerCidConfirmed = c.peerCidConfirmed
  timer : c'.idleStarted = c.idleStarted ∨ c'.idleStarted = some now

theorem unauthenticated_datagram (c : Conn env) (data : Bytes) (now : ℚ)
    (source : Option env.Destination) (ecn : ℕ)
    (hadopted : c.isClient = false → c.tls.isSome = true)
    (hinert : inert now data.length data (c.arrived data source) = true) :
    (c.state = .terminated ∨ c.state = .draining → finalState (datagramReceived data now source ecn) c = c) ∧
    (¬ (c.state = .terminated ∨ c.state = .draining) →
      c.Disturbed data now source (finalState (datagramReceived data now source ecn) c)) := by
  refine ⟨fun hstate => ?_, fun hstate => ?_⟩
  · have hdone : datagramReceived data now source ecn c = .ok ⟨⟩ c := by
      apply eq_ok_of_ensures
      simp only [datagramReceived, receiveDatagram, ensures_tryCatch, ensures_state, if_pos hstate, and_self]
    rw [finalState, hdone]
  · apply Ensures.final
    simp only [datagramReceived, receiveDatagram, ensures_tryCatch, ensures_state, if_neg hstate]
    apply (processPackets_harmless (c := c.arrived data source) now ecn data.length data hadopted hinert).mono
    · intro _ c₁ h
      have hsame : c₁.armIdleTimer now = { c.arrived data source with
          peerCid := c₁.peerCid
          peerCidConfirmed := c₁.peerCidConfirmed
          idleStarted := some now } := by
        rw [h.same]
        rfl
      exact ⟨hsame, h.settled, .inr rfl⟩
    · rintro e c₁ ⟨h, he⟩
      have hidle : c₁.idleStarted = c.idleStarted := by
        rw [h.same]
        rfl
      have hsame : c₁ = { c.arrived data source with
          peerCid := c₁.peerCid
          peerCidConfirmed := c₁.peerCidConfirmed
          idleStarted := c₁.idleStarted } := by
        rw [hidle]
        exact h.same
      cases e with
      | connection errorCode reason frameType => cases he
      | _ => exact ⟨hsame, h.settled, .inl hidle⟩

def plainForgery : Bytes :=
  (plainPacket .initial (List.replicate 8 2) (List.replicate 8 9) 0 [.ping]).dropLast ++ [1]

theorem unauthenticated_datagram_forgery :
    ((Session.start (plainServer .default)).run [.datagramReceived plainHandshake 0 none 0]).conn.Disturbed
      plainForgery 5 none (finalState (datagramReceived plainForgery 5 none 0)
        ((Session.start (plainServer .default)).run [.datagramReceived plainHandshake 0 none 0]).conn) :=
  (unauthenticated_datagram
    ((Session.start (plainServer .default)).run [.datagramReceived plainHandshake 0 none 0]).conn
    plainForgery 5 none 0 (by decide +kernel) (by decide +kernel)).2 (by decide +kernel)

theorem forgery_redirects :
    inert 5 plainForgery.length plainForgery ((plainClient .default none).arrived plainForgery none) = true ∧
    (plainClient .default none).peerCid = List.replicate 8 3 ∧
    (plainClient .default none).peerCidConfirmed = false ∧
    (plainClient .default none).idleStarted = some 0 ∧
    (finalState (datagramReceived plainForgery 5 none 0) (plainClient .default none)).peerCid =
      List.replicate 8 9 ∧
    (finalState (datagramReceived plainForgery 5 none 0) (plainClient .default none)).peerCidConfirmed = true ∧
    (finalState (datagramReceived plainForgery 5 none 0) (plainClient .default none)).idleStarted = some 5 := by
  decide +kernel

end Dsquic.Connection
