import Dsquic.Connection.Walk
import Dsquic.Endpoint.RouteParsing
import Dsquic.Wire.ParameterCodec

/-!
A Retry from end to end: the server keeps no state, so the connection IDs travel in the token, in the
headers and in the transport parameters.
-/

namespace Dsquic.Endpoint

open Lib Wire Buffer Connection Recovery

section Packet

variable {prims : Primitives} {destination cid token original packet : Bytes}

lemma parseRetry_buildRetry (hdestination : destination.length ≤ maxCidLength) (hcid : cid.length ≤ maxCidLength)
    (h : buildRetry prims destination cid token original = .ok packet) :
    ∃ header tag, packet = header ++ tag ∧ prims.retryIntegrityTag original header = .ok tag ∧
      ∀ original' expected, prims.retryIntegrityTag original' header = .ok expected →
        prims.parseRetry packet original' =
          if tag ≠ expected then .error (.headerParse "Retry integrity tag does not verify")
          else .ok ⟨quicV1, destination, cid, token⟩ := by
  obtain ⟨header, hheader, h⟩ := bind_eq_ok.1 h
  obtain ⟨tag, htag, h⟩ := bind_eq_ok.1 h
  cases h
  refine ⟨header, tag, rfl, htag, fun original' expected hexpected => ?_⟩
  have hlength := length_retryIntegrityTag htag
  have hcut : (header ++ tag).length - aeadTagLength = header.length := by
    rw [List.length_append, hlength, Nat.add_sub_cancel]
  rw [Primitives.parseRetry, if_neg (by rw [List.length_append, hlength]; omega), hcut, List.take_left,
    List.drop_left]
  dsimp only
  rw [hexpected]
  simp only [retryHeader, concatEncoded_cons_ok, concatEncoded_singleton, Except.ok.injEq] at hheader
  obtain ⟨_, _, rfl, ⟨version, _, hversion, ⟨destinationLength, _, hdl, ⟨_, _, rfl, ⟨cidLength, _, hcl,
    ⟨_, _, rfl, rfl, rfl⟩, rfl⟩, rfl⟩, rfl⟩, rfl⟩, rfl⟩ := hheader
  have hshape : [UInt8.ofNat (0x80 ||| 0x40 ||| PacketType.retry.value <<< 4)] ++ (version ++ (destinationLength ++
      (destination ++ (cidLength ++ (cid ++ token))))) ++ tag =
      [UInt8.ofNat (0x80 ||| 0x40 ||| PacketType.retry.value <<< 4)] ++
        (version ++ ((destinationLength ++ destination) ++
        ((cidLength ++ cid) ++ (token ++ tag)))) := by simp
  rw [hshape]
  apply Parser.run_eq_of_ensures
  simp only [ensures_flow]
  apply (reads_pullUint8 _ _).ensures
  refine ⟨fun hshort => absurd (by decide) hshort, fun _ => ?_⟩
  apply (reads_pullUint32 hversion _).ensures
  refine ⟨fun hother => absurd rfl hother, fun _ => ⟨fun hother => absurd (by decide) hother, fun _ => ?_⟩⟩
  apply (reads_pullShort hdl _).ensures
  apply (reads_pullShort hcl _).ensures
  refine ⟨fun hlong => (hlong.elim (Nat.not_lt.2 hdestination) (Nat.not_lt.2 hcid)).elim, fun _ => ?_⟩
  refine ⟨fun _ hequal => ?_, fun _ hfail => by cases hfail⟩
  cases hequal
  refine ⟨fun hdiffers => (if_pos hdiffers).symm, fun hagrees => ?_⟩
  rw [if_neg hagrees]
  have htoken : [UInt8.ofNat (0x80 ||| 0x40 ||| PacketType.retry.value <<< 4)] ++ (version ++ (destinationLength ++
      (destination ++ (cidLength ++ (cid ++ token))))) =
      ([UInt8.ofNat (0x80 ||| 0x40 ||| PacketType.retry.value <<< 4)] ++ version ++
        (destinationLength ++ destination) ++
        (cidLength ++ cid)) ++ token := by simp
  rw [htoken, List.drop_left' (by simp only [List.length_append, Nat.zero_add])]

lemma retryIntegrityTag_isOk (prims : Primitives) (hcid : cid.length ≤ maxCidLength) (unsigned : Bytes) :
    ∃ tag, prims.retryIntegrityTag cid unsigned = .ok tag := by
  have hshort : cid.length < 256 := lt_of_le_of_lt hcid (by decide)
  exact ⟨_, bind_eq_ok.2 ⟨_, if_pos hshort, rfl⟩⟩

end Packet

section Client

variable {env : Env} {c c' : Conn env}

structure Awaits (c : Conn env) (header : LongHeader) : Prop where
  isClient : c.isClient = true
  version : c.config.version = quicV1
  retryToken : c.retryToken = []
  unconfirmed : c.peerCidConfirmed = false
  initialDcid : c.initialDcid = header.destinationCid
  hostCid : c.hostCid = header.sourceCid

structure Accepted (c c' : Conn env) (packet : Primitives.Retry) : Prop where
  retryToken : c'.retryToken = packet.token
  retrySourceCid : c'.retrySourceCid = some packet.sourceCid
  peerCid : c'.peerCid = packet.sourceCid
  isClient : c'.isClient = c.isClient
  config : c'.config = c.config
  initialDcid : c'.initialDcid = c.initialDcid
  hostCid : c'.hostCid = c.hostCid
  unconfirmed : c'.peerCidConfirmed = c.peerCidConfirmed

variable {packet : Primitives.Retry}

lemma Accepted.onSpace (h : Accepted c c' packet) (level : Level)
    (f : Space PacketKeys Bytes → Space PacketKeys Bytes) : Accepted c (c'.onSpace level f) packet := { h with }

lemma requeueCrypto_accepted (sent : SentPacket) (h : Accepted c c' packet) :
    Ensures (requeueCrypto sent) c' (fun _ c'' => Accepted c c'' packet) fun _ _ => False := by
  refine ensures_each (I := fun _ (c'' : Conn env) => Accepted c c'' packet) ?_ sent.frames c' h
  intro frame _ c'' h
  cases frame with
  | crypto frame => exact h.onSpace _ _
  | _ => exact h

lemma handleRetry_accepted {data : Bytes} (hfirst : c.retryToken = [])
    (hunconfirmed : c.peerCidConfirmed = false) (hparse : env.parseRetry data c.initialDcid = .ok packet)
    (htoken : packet.token ≠ []) :
    Ensures (handleRetry data) c (fun _ c' => Accepted c c' packet) fun _ _ => False := by
  have hready : ¬(c.retryToken ≠ [] ∨ c.peerCidConfirmed = true) := by simp [hfirst, hunconfirmed]
  simp only [handleRetry, ensures_state, if_neg hready, hparse, if_neg htoken, acceptRetry]
  have hafter : Accepted c (c.afterRetry packet) packet := ⟨rfl, rfl, rfl, rfl, rfl, rfl, rfl, rfl⟩
  have hrequeued := ensures_each (I := fun _ (c' : Conn env) => Accepted c c' packet)
    (fun sent _ _ h => requeueCrypto_accepted sent h) ((c.afterRetry packet).recovery.restartSpace .initial).1
    ((c.afterRetry packet).setRecovery ((c.afterRetry packet).recovery.restartSpace .initial).2) { hafter with }
  exact hrequeued.imp fun _ _ h => { h with }

lemma handleRetry_refused {data : Bytes} {reason : String}
    (h : env.parseRetry data c.initialDcid = .error (.headerParse reason)) :
    handleRetry data c = .ok ⟨⟩ c := by
  apply eq_ok_of_ensures
  simp only [handleRetry, ensures_flow, h]
  exact ⟨fun _ => ⟨trivial, trivial⟩, fun _ => ⟨fun hescapes => absurd rfl hescapes, fun _ => ⟨trivial, trivial⟩⟩⟩

lemma buildDatagram_initial {now : ℚ} {ackOnly : Bool} {datagram : OutgoingDatagram env}
    (hwf : (c.headerTemplate .initial).WellFormed) (hbuild : buildDatagram now ackOnly c = .ok (some datagram) c')
    (hopens : opensInitial datagram.data = true) :
    ∃ header, parseLongHeader datagram.data = .ok header ∧ header.packetType = .initial ∧
      header.destinationCid = c.peerCid ∧ header.sourceCid = c.hostCid ∧
      header.token = (c.headerTemplate .initial).token := by
  refine (buildDatagram_packs (c := c) (G := fun data => ∃ header, parseLongHeader data = .ok header ∧
    header.packetType = .initial ∧ header.destinationCid = c.peerCid ∧ header.sourceCid = c.hostCid ∧
    header.token = (c.headerTemplate .initial).token) fun packet _ _ _ hpacks => ?_).of_ok hbuild
      datagram rfl hopens
  obtain ⟨c₁, houtline, -, -, hseals⟩ := hpacks
  obtain ⟨first, middle, length, -, -, hveiled, hparse⟩ := hseals.veiled_long
  have htemplate := headerTemplate_of_outline .initial houtline
  have hpeer : c₁.peerCid = c.peerCid := congrArg Outline.peerCid houtline
  have hhost : c₁.hostCid = c.hostCid := congrArg Outline.hostCid houtline
  have hparse := hparse (htemplate ▸ hwf) _ packet [] hveiled
  rw [htemplate] at hparse
  refine ⟨_, by simpa using hparse, rfl, hpeer, hhost, rfl⟩

lemma locatePacket_first {data : Bytes} {header : LongHeader} (hclient : c.isClient = true)
    (hunconfirmed : c.peerCidConfirmed = false) (hopens : opensInitial data = true)
    (hparse : parseLongHeader data = .ok header) (htype : header.packetType = .initial) :
    ∃ located, locatePacket data c =
      .ok (some located) { c with peerCid := header.sourceCid, peerCidConfirmed := true } := by
  have hlevel : levelOf header.packetType = some .initial := by rw [htype]; rfl
  refine ⟨⟨.initial, header.pnOffset, data.take (header.pnOffset + header.length),
    header.pnOffset + header.length⟩, ?_⟩
  apply eq_ok_of_ensures
  rw [locatePacket_long (Bool.and_eq_true_iff.1 hopens).1 hparse hlevel]
  simp [ensures_flow, noteLongHeader, htype, hclient, hunconfirmed]

end Client

section Routing

lemma validateAddress_minted {server : Server} {entropy entropy' : Entropy} {data cid original : Bytes}
    {header : LongHeader}
    {source : Address} {issued now : ℚ} (hheader : initialHeader data = .ok (some header))
    (hmint : mintToken server.prims server.tokenKey entropy.nonce.1 original source.repr issued = .ok header.token)
    (htime : now - wholeSeconds issued ≤ tokenLifetime) :
    validateAddress server entropy' data cid source now = .ok (.inr (some ⟨original, cid⟩)) := by
  have hvalid := validateToken_mintToken entropy.nonce.2 hmint htime
  obtain ⟨payload, -, htoken⟩ := bind_eq_ok.1 hmint
  have htoken :
    header.token = 1 :: (entropy.nonce.1 ++ server.prims.aeadEncrypt .aesGcm server.tokenKey entropy.nonce.1
      payload retryToken) := (Except.ok.inj htoken).symm
  have hsome : header.token ≠ [] := by simp [htoken]
  have hretry : ¬newToken <+: header.token := by
    rw [htoken, newToken, List.cons_prefix_cons]
    exact fun h => absurd h.1 (by decide)
  have hcheck : checkToken server header.token cid source now = .ok (some ⟨original, cid⟩) := by
    rw [checkToken, if_neg hretry, hvalid]
    rfl
  simp only [validateAddress, hheader, bind, Except.bind, if_neg hsome, hcheck, pure, Except.pure]

end Routing

section Parameters

variable {env : Env}

lemma adoptClientInitial_advertises (config : Config) (hostCid : Conn.Cid) (destination : Option env.Destination)
    (dcid scid : Bytes) :
    Ensures (adoptClientInitial dcid scid) (Conn.newServer env config hostCid destination)
      fun _ s => ∃ encoded, ((Conn.newServer env config hostCid destination).parametersFor dcid).encode =
        .ok encoded ∧
        s.tls = some (env.newServer encoded) ∧
        s.headerTemplate .initial = ⟨.initial, config.version, scid, hostCid.1, config.token⟩ := by
  simp only [adoptClientInitial, ensures_flow]
  refine ⟨fun _ => ⟨fun encoded hencoded => ⟨encoded, hencoded, ?_⟩, fun _ _ => trivial⟩,
    fun hsome => absurd rfl hsome⟩
  split_ifs with hpeer
  · exact ⟨rfl, rfl⟩
  · exact absurd rfl hpeer

lemma validatePeerParameters_echoed {c : Conn env} {peer : TransportParameters}
    (hsource : peer.initialSourceConnectionId = some c.peerCid)
    (horiginal : peer.originalDestinationConnectionId = some c.initialDcid)
    (hretry : peer.retrySourceConnectionId = c.retrySourceCid) : validatePeerParameters peer c = .ok ⟨⟩ c := by
  apply eq_ok_of_ensures
  simp only [validatePeerParameters, ensures_flow, hsource, horiginal, hretry]
  simp

end Parameters

def TellsApart (prims : Primitives) (packet original original' : Bytes) : Prop :=
  original ≠ original' → prims.retryIntegrityTag original (packet.take (packet.length - aeadTagLength)) ≠
    prims.retryIntegrityTag original' (packet.take (packet.length - aeadTagLength))

section RoundTrip

variable {env : Env} {server : Server} {entropy : Entropy} {header : LongHeader} {source : Address} {issued : ℚ}
  {packet : Bytes} {retry : Primitives.Retry} {c c' : Conn env}

lemma parseRetry_sendRetry (hprims : server.prims = env.toPrimitives)
    (hsource : header.sourceCid.length ≤ maxCidLength)
    (h : sendRetry server entropy header source issued = .ok packet) :
    ∃ token, mintToken server.prims server.tokenKey entropy.nonce.1 header.destinationCid source.repr
      issued = .ok token ∧
      env.parseRetry packet header.destinationCid = .ok ⟨quicV1, header.sourceCid, entropy.retryCid.1, token⟩ := by
  obtain ⟨token, htoken, h⟩ := bind_eq_ok.1 h
  have hcid : entropy.retryCid.1.length ≤ maxCidLength := entropy.retryCid.2.le.trans (by decide)
  obtain ⟨unsigned, tag, -, htag, hparse⟩ := parseRetry_buildRetry hsource hcid h
  refine ⟨token, htoken, ?_⟩
  rw [← hprims, hparse _ tag htag, if_neg (not_not.2 rfl)]

lemma parseRetry_other (hprims : server.prims = env.toPrimitives) {original : Bytes}
    (horiginal : original.length ≤ maxCidLength) (hsource : header.sourceCid.length ≤ maxCidLength)
    (hother : header.destinationCid ≠ original) (h : sendRetry server entropy header source issued = .ok packet)
    (hideal : TellsApart env.toPrimitives packet header.destinationCid original) :
    env.parseRetry packet original = .error (.headerParse "Retry integrity tag does not verify") := by
  obtain ⟨token, htoken, h⟩ := bind_eq_ok.1 h
  have hcid : entropy.retryCid.1.length ≤ maxCidLength := entropy.retryCid.2.le.trans (by decide)
  obtain ⟨unsigned, tag, hpacket, htag, hparse⟩ := parseRetry_buildRetry hsource hcid h
  have hcut : packet.take (packet.length - aeadTagLength) = unsigned := by
    rw [hpacket, List.length_append, length_retryIntegrityTag htag, Nat.add_sub_cancel, List.take_left]
  obtain ⟨expected, hexpected⟩ := retryIntegrityTag_isOk env.toPrimitives horiginal unsigned
  have hapart := hideal hother
  rw [hcut, ← hprims, htag, hprims, hexpected] at hapart
  rw [← hprims, hparse original expected (hprims ▸ hexpected), if_pos fun heq => hapart (congrArg Except.ok heq)]

lemma initialHeader_of_parseLongHeader {data : Bytes} (hparse : parseLongHeader data = .ok header)
    (htype : header.packetType = .initial) (hopens : opensInitial data = true) :
    initialHeader data = .ok (some header) := by
  have hlong : isLong (data.headD 0) = true := (Bool.and_eq_true_iff.1 hopens).1
  have hready : ¬(data = [] ∨ ¬isLong (data.headD 0) = true) := by
    rintro (rfl | hshort)
    · cases hlong
    · exact hshort hlong
  rw [initialHeader, if_neg hready, hparse]
  simp [htype]

/-- The client's next Initials carry the token of the Retry to its connection ID, and the server lets them in as
those of the connection that was tried first. -/
def Readmits (server : Server) (source : Address) (now : ℚ) (original : Bytes) (retry : Primitives.Retry)
    (c : Conn env) : Prop :=
  ∀ (entropy : Entropy) (c₁ c₂ : Conn env) (time : ℚ) (ackOnly : Bool) (datagram : OutgoingDatagram env),
    c₁.headerTemplate .initial = c.headerTemplate .initial →
    buildDatagram time ackOnly c₁ = .ok (some datagram) c₂ → opensInitial datagram.data = true →
    ∃ header, initialHeader datagram.data = .ok (some header) ∧ header.token = retry.token ∧
      header.destinationCid = retry.sourceCid ∧
      destinationConnectionId datagram.data connectionIdLength = some retry.sourceCid ∧
      validateAddress server entropy datagram.data retry.sourceCid source now =
        .ok (.inr (some ⟨original, retry.sourceCid⟩))

/-- A client that has heard no packet of the server yet takes the server's connection ID from the first Initial. -/
def Introduces {env' : Env} (s : Conn env') (c : Conn env) (cid : Bytes) : Prop :=
  ∀ (s₁ s₂ : Conn env') (time : ℚ) (ackOnly : Bool) (datagram : OutgoingDatagram env') (c₁ : Conn env),
    s₁.headerTemplate .initial = s.headerTemplate .initial →
    buildDatagram time ackOnly s₁ = .ok (some datagram) s₂ → opensInitial datagram.data = true →
    c₁.isClient = c.isClient → c₁.peerCidConfirmed = c.peerCidConfirmed →
    ∃ located, locatePacket datagram.data c₁ =
      .ok (some located) { c₁ with peerCid := cid, peerCidConfirmed := true }

def Echoes (env' : Env) (original : Bytes) (retry : Primitives.Retry) (c : Conn env) : Prop :=
  ∀ (config : Config) (hostCid : Conn.Cid) (destination : Option env'.Destination) (scid : Bytes) (s : Conn env'),
    config.retry = some ⟨original, retry.sourceCid⟩ →
    adoptClientInitial retry.sourceCid scid (Conn.newServer env' config hostCid destination) = .ok ⟨⟩ s →
    ∃ encoded peer, s.tls = some (env'.newServer encoded) ∧ TransportParameters.decode encoded = .ok peer ∧
      (∀ c₁ : Conn env, c₁.initialDcid = c.initialDcid → c₁.retrySourceCid = c.retrySourceCid →
        c₁.peerCid = hostCid.1 → validatePeerParameters peer c₁ = .ok ⟨⟩ c₁) ∧
      (config.version = quicV1 → scid.length ≤ maxCidLength → Introduces s c hostCid.1)

def Discards (c : Conn env) (original : Bytes) : Prop :=
  ∀ (server : Server) (entropy : Entropy) (data : Bytes) (header : LongHeader) (source : Address) (issued : ℚ)
    (packet : Bytes), server.prims = env.toPrimitives → initialHeader data = .ok (some header) →
    sendRetry server entropy header source issued = .ok packet → header.destinationCid ≠ original →
    TellsApart env.toPrimitives packet header.destinationCid original → handleRetry packet c = .ok ⟨⟩ c

lemma Accepted.readmits {now : ℚ} {token : Bytes}
    (h : Accepted c c' retry) (hawaits : Awaits c header) (hhost : header.sourceCid.length ≤ maxCidLength)
    (hretry : retry.sourceCid.length ≤ maxCidLength) (htoken : retry.token = token) (hsome : token ≠ [])
    (hmint : mintToken server.prims server.tokenKey entropy.nonce.1 header.destinationCid source.repr
    issued = .ok token)
    (htime : now - wholeSeconds issued ≤ tokenLifetime) :
    Readmits server source now header.destinationCid retry c' := by
  intro entropy' c₁ c₂ time ackOnly datagram htemplate hbuild hopens
  have hwf : (c'.headerTemplate .initial).WellFormed := by
    refine ⟨PacketType.noConfusion, ?_, ?_, ?_, fun hother => absurd rfl hother⟩
    · exact (congrArg Config.version h.config).trans hawaits.version
    · exact (congrArg List.length h.peerCid).le.trans hretry
    · exact (congrArg List.length (h.hostCid.trans hawaits.hostCid)).le.trans hhost
  have hpeer : c₁.peerCid = retry.sourceCid :=
    (congrArg LongHeaderTemplate.destinationCid htemplate).trans h.peerCid
  obtain ⟨header', hparse, htype, hdestination, -, hcarried⟩ :=
    buildDatagram_initial (htemplate ▸ hwf) hbuild hopens
  have hheader' := initialHeader_of_parseLongHeader hparse htype hopens
  have hcarried : header'.token = token := by
    rw [hcarried, htemplate, Conn.headerTemplate, if_pos rfl, h.retryToken, htoken, if_pos hsome]
  refine ⟨header', hheader', hcarried.trans htoken.symm, hdestination.trans hpeer, ?_, ?_⟩
  · rw [destinationConnectionId_of_parseLongHeader hparse, hdestination, hpeer]
  · exact validateAddress_minted hheader' (hcarried ▸ hmint) htime

lemma Accepted.echoes (h : Accepted c c' retry) (hawaits : Awaits c header)
    (env' : Env) : Echoes env' header.destinationCid retry c' := by
  intro config hostCid destination scid s hconfig hadopt
  obtain ⟨encoded, hencoded, htls, htemplate⟩ :=
    (adoptClientInitial_advertises config hostCid destination retry.sourceCid scid).of_ok hadopt
  refine ⟨encoded, _, htls, TransportParameters.decode_encode hencoded, fun c₁ hinitial hsource hpeer => ?_,
    fun hversion hscid => ?_⟩
  · refine validatePeerParameters_echoed ?_ ?_ ?_
    · rw [hpeer]
      rfl
    · rw [hinitial, h.initialDcid, hawaits.initialDcid]
      simp [Conn.parametersFor, Conn.newServer, Conn.blank, hconfig]
    · rw [hsource, h.retrySourceCid]
      simp [Conn.parametersFor, Conn.newServer, Conn.blank, hconfig]
  · intro s₁ s₂ time ackOnly datagram c₁ hsame hbuild hopens hclient hunconfirmed
    rw [htemplate] at hsame
    have hwf : (s₁.headerTemplate .initial).WellFormed := by
      rw [hsame]
      exact ⟨PacketType.noConfusion, hversion, hscid, hostCid.2.le.trans (by decide),
        fun hother => absurd rfl hother⟩
    obtain ⟨header', hparse, htype, -, hsource, -⟩ := buildDatagram_initial hwf hbuild hopens
    have hhost : header'.sourceCid = hostCid.1 := hsource.trans (congrArg LongHeaderTemplate.sourceCid hsame)
    rw [← hhost]
    exact locatePacket_first (hclient.trans (h.isClient.trans hawaits.isClient))
      (hunconfirmed.trans (h.unconfirmed.trans hawaits.unconfirmed)) hopens hparse htype

lemma Awaits.discards {c : Conn env} (h : Awaits c header)
    (hdestination : header.destinationCid.length ≤ maxCidLength) :
    Discards c header.destinationCid := by
  intro server entropy data header' source issued packet hprims hheader' hpacket hother hideal
  have hsource := (length_cids_of_parseLongHeader (initial_of_initialHeader hheader').1).2
  apply handleRetry_refused
  rw [h.initialDcid]
  exact parseRetry_other hprims hdestination hsource hother hpacket hideal

/-- What a Retry starts comes back to the server as it was, and a client takes no other Retry for its own. Times
are within the lifetime of a token, counted from the whole second of its issue. -/
theorem retry_round_trip (env' : Env) (hprims : server.prims = env.toPrimitives) (data : Bytes) (now : ℚ)
    (c : Conn env)
    (hheader : initialHeader data = .ok (some header)) (hawaits : Awaits c header)
    (hpacket : sendRetry server entropy header source issued = .ok packet)
    (htime : now - wholeSeconds issued ≤ tokenLifetime) :
    ∃ retry c', env.parseRetry packet c.initialDcid = .ok retry ∧ retry.sourceCid = entropy.retryCid.1 ∧
      handleRetry packet c = .ok ⟨⟩ c' ∧ Accepted c c' retry ∧
      Readmits server source now header.destinationCid retry c' ∧ Echoes env' header.destinationCid retry c' ∧
      Discards c header.destinationCid := by
  obtain ⟨hdestination, hsource⟩ := length_cids_of_parseLongHeader (initial_of_initialHeader hheader).1
  obtain ⟨token, hmint, hparse⟩ := parseRetry_sendRetry hprims hsource hpacket
  rw [← hawaits.initialDcid] at hparse
  have hsome : token ≠ [] := by
    obtain ⟨payload, -, htoken⟩ := bind_eq_ok.1 hmint
    rw [← Except.ok.inj htoken]
    exact List.cons_ne_nil _ _
  have haccepts := handleRetry_accepted hawaits.retryToken hawaits.unconfirmed hparse hsome
  cases hrun : handleRetry packet c with
  | error e c' => exact (haccepts.of_error hrun).elim
  | ok _ c' =>
    have haccepted := haccepts.of_ok hrun
    have hcid : entropy.retryCid.1.length ≤ maxCidLength := entropy.retryCid.2.le.trans (by decide)
    exact ⟨_, c', hparse, rfl, rfl, haccepted, haccepted.readmits hawaits hsource hcid rfl hsome hmint htime,
      haccepted.echoes hawaits env', hawaits.discards hdestination⟩

end RoundTrip

def plainInitial : Bytes :=
  [0xC0, 0, 0, 0, 1, 8] ++ List.replicate 8 3 ++ [8] ++ List.replicate 8 2 ++ [0, 0]

def plainInitialHeader : LongHeader := ⟨.initial, quicV1, List.replicate 8 3, List.replicate 8 2, [], 0, 25⟩

lemma awaits_plainClient : Awaits (plainClient .default none) plainInitialHeader := by
  constructor <;> decide +kernel

def plainRetry : Bytes :=
  [0xF0, 0, 0, 0, 1, 8] ++ List.replicate 8 2 ++ [8] ++ List.replicate 8 4 ++ retryToken ++ List.replicate 12 5 ++
    [8] ++ List.replicate 8 3 ++ List.replicate 41 0

theorem retry_round_trip_plain : ∃ (retry : Primitives.Retry) (c' : Conn .plain),
    handleRetry plainRetry (plainClient .default none) = .ok ⟨⟩ c' ∧
      Accepted (plainClient .default none) c' retry ∧
      Readmits plainRetryServer ⟨[], true⟩ 60 (List.replicate 8 3) retry c' := by
  have hheader : initialHeader plainInitial = .ok (some plainInitialHeader) := by decide +kernel
  have hpacket : sendRetry plainRetryServer plainEntropy plainInitialHeader ⟨[], true⟩ 0 = .ok plainRetry := by
    decide +kernel
  have htime : (60 : ℚ) - wholeSeconds 0 ≤ tokenLifetime := by decide +kernel
  obtain ⟨retry, c', -, -, hrun, haccepted, hreadmits, -⟩ := retry_round_trip .plain rfl plainInitial 60
    (plainClient .default none) hheader awaits_plainClient hpacket htime
  exact ⟨retry, c', hrun, haccepted, hreadmits⟩

def plainRetried : Bytes :=
  match handleRetry plainRetry (plainClient .default none) with
  | .ok _ c =>
    match buildDatagram 0 false c with
    | .ok (some datagram) _ => datagram.data
    | _ => []
  | _ => []

theorem retry_expires_early :
    sendRetry plainRetryServer plainEntropy plainInitialHeader ⟨[], true⟩ (1 / 2) = .ok plainRetry ∧
      opensInitial plainRetried = true ∧ (241 / 4 : ℚ) - 1 / 2 < tokenLifetime ∧
      validateAddress plainRetryServer plainEntropy plainRetried (List.replicate 8 4) ⟨[], true⟩ (241 / 4) ≠
        .ok (.inr (some ⟨List.replicate 8 3, List.replicate 8 4⟩)) := by
  decide +kernel

end Dsquic.Endpoint
