import Dsquic.Tls.Alerts
import Dsquic.Tls.Server

/-!
A server that is fed messages that can be decoded raises nothing but alerts.
-/

namespace Dsquic.Tls

open Lib Wire Buffer Recovery

structure ServerSetup where
  ticketKey : Option Bytes
  transportParameters : Bytes
  certificateChain : List Bytes
  signingKey : Bytes
  protocols : List Bytes
  random : Bytes
  key : Bytes

def TlsServer.setup (server : TlsServer) : ServerSetup :=
  ⟨server.ticketKey, server.transportParameters, server.certificateChain, server.signingKey, server.protocols,
    server.random, server.key⟩

namespace ServerSetup

variable (prims : Asymmetric) (setup : ServerSetup)

def server : TlsServer :=
  .new prims setup.ticketKey setup.transportParameters setup.certificateChain setup.signingKey setup.protocols
    setup.random setup.key

structure Speaks : Prop where
  random : setup.random.length = 32
  publicKey : (prims.publicKey setup.key).length = 32
  parameters : setup.transportParameters.length < 2 ^ 15
  decodes : ∃ parameters, TransportParameters.decode setup.transportParameters = .ok parameters
  chain : (setup.certificateChain.map fun data => data.length + 5).sum + 4 < 256 ^ 3
  signatures : ∀ data, (prims.sign setup.signingKey data).length < 256 ^ 2
  protocols : ∀ protocol ∈ setup.protocols, protocol.length < 256

structure Reads (now : ℚ) (hello : ClientHello) : Prop where
  shares : ∀ data, findExtension hello.extensions ExtensionType.keyShare = some data → ∃ share,
    clientKeyShare data = .ok share ∧
      ∀ peerPublic ∈ share, peerPublic.length = 32 ∧ (prims.sharedSecret setup.key peerPublic).isSome
  groups : ∀ data, findExtension hello.extensions ExtensionType.supportedGroups = some data →
    ∃ groups, parseSupportedGroups data = .ok groups
  protocols : ∀ data, findExtension hello.extensions ExtensionType.alpn = some data →
    ∃ protocols, parseAlpn data = .ok protocols
  offer : ∀ data, findExtension hello.extensions ExtensionType.preSharedKey = some data →
    Alerts (parseOfferedPsks data)
  tickets : ∀ data identities binders key,
    findExtension hello.extensions ExtensionType.preSharedKey = some data →
    parseOfferedPsks data = .ok (identities, binders) → setup.ticketKey = some key → ∀ identity ∈ identities,
      ∃ ticket, openTicket prims.toHashing key identity.identity now sessionTicketLifetime = .ok ticket ∧
        ∀ state ∈ ticket, ∃ parameters, TransportParameters.decode state.transportParameters = .ok parameters

end ServerSetup

structure TicketDraw.Fits (draw : TicketDraw) : Prop where
  nonce : draw.nonce.length = ticketNonceLength
  ageAdd : draw.ageAdd.length = 4
  sealNonce : draw.sealNonce.length = ticketNonceLength

def Dated (now : ℚ) : Prop := 0 ≤ now ∧ now < 2 ^ 64

section Offers

variable {prims : Asymmetric} {setup : ServerSetup} {server : TlsServer} {hello : ClientHello}
  {raw : Bytes} {now : ℚ}
  {binders : List Bytes}

lemma firstTicket_spec {key : Bytes} {offered : List (PskIdentity × ℕ)} (h : ∀ identity ∈ offered, ∃ ticket,
      openTicket prims.toHashing key identity.1.identity now sessionTicketLifetime = .ok ticket) :
    Alerts (TlsServer.firstTicket prims key raw binders now offered) ∧ ∀ index state,
      TlsServer.firstTicket prims key raw binders now offered = .ok (some (index, state)) →
      ∃ identity, (identity, index) ∈ offered ∧
        openTicket prims.toHashing key identity.identity now sessionTicketLifetime = .ok (some state) := by
  induction offered with
  | nil =>
    refine ⟨alerts_of_ok rfl, fun index state hnone => ?_⟩
    cases hnone
  | cons first others ih =>
    rw [List.forall_mem_cons] at h
    obtain ⟨⟨ticket, hticket⟩, hothers⟩ := h
    obtain ⟨ihalerts, ihfound⟩ := ih hothers
    rw [TlsServer.firstTicket, hticket]
    cases ticket with
    | none =>
      refine ⟨ihalerts, fun index state hfound => ?_⟩
      obtain ⟨identity, hmem, hopen⟩ := ihfound index state hfound
      exact ⟨identity, List.mem_cons_of_mem _ hmem, hopen⟩
    | some opened =>
      constructor
      · refine (alerts_binderTranscript raw binders.length).bind fun transcript _ => ?_
        dsimp only
        split_ifs
        · exact alerts_alert _ _
        · exact alerts_of_ok rfl
      · intro index state hfound
        obtain ⟨_, hsome, hfound⟩ := bind_eq_ok.1 hfound
        cases hsome
        obtain ⟨transcript, -, hfound⟩ := bind_eq_ok.1 hfound
        dsimp only at hfound
        split_ifs at hfound
        cases hfound
        exact ⟨first.1, List.mem_cons_self, hticket⟩

lemma length_le_of_concatEncoded {α : Type} {encode : α → Except Raised Bytes} {items : List α} {body : Bytes}
    (hpos : ∀ a data, encode a = .ok data → data ≠ []) (h : concatEncoded (items.map encode) = .ok body) :
    items.length ≤ body.length := by
  induction items generalizing body with
  | nil => exact Nat.zero_le _
  | cons item items ih =>
    obtain ⟨first, others, hfirst, hothers, rfl⟩ := concatEncoded_cons_ok.1 h
    have hle := ih hothers
    have hne := List.length_pos_iff.2 (hpos item first hfirst)
    rw [List.length_append, List.length_cons]
    omega

lemma retraces_pullPskIdentity : pullPskIdentity.Retraces fun identity data => encodePskIdentity identity =
    .ok data := by
  refine (retraces_pullVec 2).bind fun identity first hfirst => ?_
  refine (retraces_pullUint 4).bind fun age second hsecond => .pure ?_
  exact concatEncoded_step hfirst (concatEncoded_step hsecond rfl)

lemma length_lt_of_parseOfferedPsks {offer : Bytes} {identities : List PskIdentity}
    (h : parseOfferedPsks offer = .ok (identities, binders)) : identities.length < 256 ^ 2 := by
  refine Parser.of_run_eq_ok (Q := fun parsed => parsed.1.length < 256 ^ 2) ?_ h
  rw [ensures_bind]
  apply (retraces_pullVecOf retraces_pullPskIdentity ⟨offer, 0⟩).imp_true
  rintro parsed b ⟨encoded, -, -, hencoded⟩
  obtain ⟨body, hbody, hvec⟩ := bind_eq_ok.1 hencoded
  have hle := length_le_of_concatEncoded (fun identity data hdata => ?_) hbody
  · have hlt := length_lt_of_vec hvec
    refine ensures_bind_of_forall fun binders b' => ?_
    simp only [ensures_flow]
    exact ⟨fun _ => trivial, fun _ => by omega⟩
  · obtain ⟨part, _, hpart, -, rfl⟩ := concatEncoded_cons_ok.1 hdata
    simp [vec_ne_nil Nat.two_pos hpart]

structure Selected (hello : ClientHello) (index : ℕ) (state : TicketState) : Prop where
  offered : ∃ offer identities binders, findExtension hello.extensions ExtensionType.preSharedKey = some offer ∧
    parseOfferedPsks offer = .ok (identities, binders) ∧ index < identities.length
  decodes : ∃ parameters, TransportParameters.decode state.transportParameters = .ok parameters

lemma selectPsk_spec (raw : Bytes) (hreads : setup.Reads prims now hello) (hnow : server.now = now)
    (hsetup : server.setup = setup) :
    Alerts (server.selectPsk prims hello raw) ∧ ∀ index state,
      server.selectPsk prims hello raw = .ok (some (index, state)) → Selected hello index state := by
  have hnone : Alerts (.ok none : Except Raised (Option (ℕ × TicketState))) ∧ ∀ index state,
      (.ok none : Except Raised (Option (ℕ × TicketState))) = .ok (some (index, state)) →
        Selected hello index state := by
    refine ⟨alerts_of_ok rfl, fun index state h => ?_⟩
    cases h
  have hkey : setup.ticketKey = server.ticketKey := by rw [← hsetup]; rfl
  rw [TlsServer.selectPsk]
  cases hoffer : findExtension hello.extensions ExtensionType.preSharedKey with
  | none => exact hnone
  | some offer =>
    split_ifs
    · exact ⟨alerts_alert _ _, fun _ _ h => by cases h⟩
    · exact ⟨alerts_alert _ _, fun _ _ h => by cases h⟩
    · exact hnone
    · cases server.ticketKey <;> exact hnone
    · cases hticket : server.ticketKey with
      | none => exact hnone
      | some key =>
        have hopen : ∀ identities binders, parseOfferedPsks offer = .ok (identities, binders) →
            ∀ identity ∈ identities.zipIdx, ∃ ticket, openTicket prims.toHashing key identity.1.identity server.now
              sessionTicketLifetime = .ok ticket := by
          intro identities binders hparsed identity hidentity
          rw [hnow]
          obtain ⟨ticket, hopened, -⟩ := hreads.tickets offer identities binders key hoffer hparsed
            (hkey.trans hticket) identity.1 (List.fst_mem_of_mem_zipIdx hidentity)
          exact ⟨ticket, hopened⟩
        constructor
        · refine (hreads.offer offer hoffer).bind fun parsed hparsed => ?_
          exact (firstTicket_spec (hopen parsed.1 parsed.2 hparsed)).1
        · intro index state hfound
          obtain ⟨⟨identities, binders⟩, hparsed, hfound⟩ := bind_eq_ok.1 hfound
          obtain ⟨identity, hmem, hopened⟩ :=
            (firstTicket_spec (hopen identities binders hparsed)).2 index state hfound
          have hmem' : identity ∈ identities := List.fst_mem_of_mem_zipIdx hmem
          have hindex : index < identities.length := by simpa using List.snd_lt_of_mem_zipIdx hmem
          refine ⟨⟨offer, identities, binders, hoffer, hparsed, hindex⟩, ?_⟩
          obtain ⟨ticket, hticket', hstates⟩ :=
            hreads.tickets offer identities binders key hoffer hparsed (hkey.trans hticket) identity hmem'
          rw [hnow] at hopened
          cases hopened.symm.trans hticket'
          exact hstates state rfl

lemma alerts_ticketIsFresh {index : ℕ} {state : TicketState} (h : Selected hello index state) (now : ℚ) :
    Alerts (TlsServer.ticketIsFresh hello (index, state) now) := by
  obtain ⟨offer, identities, binders, hoffer, hparsed, hindex⟩ := h.offered
  rw [TlsServer.ticketIsFresh, hoffer]
  refine (alerts_of_ok hparsed).bind fun parsed hsame => ?_
  cases hparsed.symm.trans hsame
  dsimp only
  rw [List.getElem?_eq_getElem hindex]
  exact alerts_of_ok rfl

lemma alerts_acceptsEarlyData {selected : Option (ℕ × TicketState)} (alpn : Bytes)
    (hdecodes : ∃ parameters, TransportParameters.decode server.transportParameters = .ok parameters)
    (hselected : ∀ index state, selected = some (index, state) → Selected hello index state) :
    Alerts (server.acceptsEarlyData hello alpn selected) := by
  cases selected with
  | none => exact alerts_of_ok rfl
  | some found =>
    obtain ⟨index, state⟩ := found
    have hfound := hselected index state rfl
    obtain ⟨remembered, hremembered⟩ := hfound.decodes
    obtain ⟨current, hcurrent⟩ := hdecodes
    rw [TlsServer.acceptsEarlyData]
    split_ifs
    · exact alerts_of_ok rfl
    · refine (alerts_of_ok hremembered).bind fun _ _ => (alerts_of_ok hcurrent).bind fun _ _ => ?_
      split_ifs
      · exact alerts_of_ok rfl
      · exact alerts_ticketIsFresh hfound server.now

end Offers

namespace TlsServer

def Serves (setup : ServerSetup) (server : TlsServer) : Prop :=
  server.setup = setup ∧ server.cipherSuite ∈ supportedCipherSuites ∧ server.alpn.length < 256

section Steps

variable {prims : Asymmetric} {setup : ServerSetup} {server : TlsServer} {hello : ClientHello}
  {raw : Bytes} {now : ℚ}
  {alpn : Bytes} {length : ℕ} {group : ℕ}

lemma Serves.suite_lt (h : server.Serves setup) : server.cipherSuite < 256 ^ 2 := by
  have hsuites : ∀ suite ∈ supportedCipherSuites, suite < 256 ^ 2 := by decide
  exact hsuites _ h.2.1

lemma sized_serverHello (hello : ServerHello) (hrandom : hello.random.length = 32)
    (hsession : hello.legacySessionIdEcho.length < 256) (hsuite : hello.cipherSuite < 256 ^ 2)
    (htype : ∀ ext ∈ hello.extensions, ext.type < 256 ^ 2) (htotal : Extension.total hello.extensions < 256) :
    ∃ n, Sized (encodeServerHello hello) n := by
  have hbody := (sized_intToBytes (show tlsLegacyVersion < 256 ^ 2 by decide)).cons ((sized_ok hello.random).cons
    ((sized_vec 1 (by simpa using hsession)).cons ((sized_intToBytes hsuite).cons
      ((sized_ok [0]).cons ((sized_extensions hello.extensions htype (by omega)).cons sized_nil)))))
  refine ⟨_, sized_handshakeMessage hbody ?_⟩
  simp only [hrandom, List.length_singleton]
  omega

lemma Serves.sendHelloRetryRequest (h : server.Serves setup) (hsession : hello.legacySessionId.length < 256)
    (hgroup : group ∈ supportedGroups) :
    Upholds (Serves setup) (sendHelloRetryRequest prims hello raw group) server := by
  obtain rfl : group = x25519Group := by simpa [supportedGroups] using hgroup
  simp only [TlsServer.sendHelloRetryRequest, ensures_state, ensures_raiseIf]
  refine ⟨fun _ => ⟨isAlert_tlsAlert _ _, h⟩, fun _ => ?_⟩
  refine ensures_lift_alerts (alerts_of_ok rfl) h fun selected hselected => ?_
  have htotal :
    Extension.total [⟨ExtensionType.supportedVersions, tls13⟩, ⟨ExtensionType.keyShare, selected⟩] < 256 := by
    cases hselected
    decide
  obtain ⟨n, hsized⟩ := sized_serverHello ⟨helloRetryRequestRandom, hello.legacySessionId, server.cipherSuite,
    [⟨ExtensionType.supportedVersions, tls13⟩, ⟨ExtensionType.keyShare, selected⟩]⟩ rfl hsession h.suite_lt
    (by simp [ExtensionType.supportedVersions, ExtensionType.keyShare]) htotal
  refine ensures_lift_alerts hsized.alerts h fun retry _ => ?_
  simp only [updateTranscript, emit, ensures_modify]
  exact h

lemma Serves.resolvePskOffer (h : server.Serves setup) (hspeaks : setup.Speaks prims)
    (hreads : setup.Reads prims now hello) (hnow : server.now = now) (alpn : Bytes) :
    Ensures (resolvePskOffer prims hello raw alpn) server
      (fun selected s => Serves setup s ∧ ∀ index state, selected = some (index, state) →
        Selected hello index state)
      fun e s => IsAlert e ∧ Serves setup s := by
  obtain ⟨halerts, hselected⟩ := selectPsk_spec raw hreads hnow h.1
  simp only [TlsServer.resolvePskOffer, ensures_bind, ensures_get]
  refine ensures_lift_alerts halerts h fun selected hfound => ?_
  have htaken : ∀ index state, selected = some (index, state) → Selected hello index state := by
    rintro index state rfl
    exact hselected index state hfound
  have hdecodes : ∃ parameters, TransportParameters.decode server.transportParameters = .ok parameters := by
    have hdecodes := hspeaks.decodes
    rwa [← h.1] at hdecodes
  rw [ensures_set]
  refine ensures_lift_alerts (alerts_acceptsEarlyData alpn hdecodes htaken) h fun accepted _ => ?_
  simp only [ensures_state]
  exact ⟨h, htaken⟩

lemma Serves.sendServerHello (h : server.Serves setup) (hspeaks : setup.Speaks prims)
    (hsession : hello.legacySessionId.length < 256) {selected : Option (ℕ × TicketState)}
    (hselected : ∀ index state, selected = some (index, state) → index < 256 ^ 2) :
    Upholds (Serves setup) (sendServerHello prims hello selected) server := by
  have hkey : (prims.publicKey server.key).length = 32 := by
    have hkey := hspeaks.publicKey
    rwa [← h.1] at hkey
  have hrandom : server.random.length = 32 := by
    have hrandom := hspeaks.random
    rwa [← h.1] at hrandom
  have hshare := (sized_intToBytes (show x25519Group < 256 ^ 2 by decide)).cons
    ((sized_vec 2 (show (prims.publicKey server.key).length < 256 ^ 2 by omega)).cons sized_nil)
  simp only [TlsServer.sendServerHello, ensures_state]
  refine ensures_lift_alerts hshare.alerts h fun share hshared => ?_
  have hlength := hshare.length hshared
  refine ensures_lift_alerts ?_ h fun identity hidentity => ?_
  · cases selected with
    | none => exact alerts_of_ok rfl
    | some found =>
      exact (sized_intToBytes (hselected found.1 found.2 rfl)).alerts.bind fun _ _ => alerts_of_ok rfl
  · have hsmall : (∀ ext ∈ identity, ext.type < 256 ^ 2) ∧ Extension.total identity ≤ 6 := by
      cases selected with
      | none =>
        cases hidentity
        exact ⟨by simp, by decide⟩
      | some found =>
        obtain ⟨data, hdata, hlist⟩ := bind_eq_ok.1 hidentity
        cases hlist
        have hlength := length_intToBytes hdata
        exact ⟨by simp [ExtensionType.preSharedKey], by simp [Extension.total, hlength]⟩
    have htotal : Extension.total ([⟨ExtensionType.supportedVersions, tls13⟩, ⟨ExtensionType.keyShare, share⟩] ++
        identity) < 256 := by
      simp only [Extension.total, List.map_append, List.map_cons, List.map_nil, List.sum_append, List.sum_cons,
        List.sum_nil, hlength, hkey, show tls13.length = 2 from rfl]
      have := hsmall.2
      rw [Extension.total] at this
      omega
    obtain ⟨n, hsized⟩ := sized_serverHello ⟨server.random, hello.legacySessionId, server.cipherSuite,
      [⟨ExtensionType.supportedVersions, tls13⟩, ⟨ExtensionType.keyShare, share⟩] ++ identity⟩ hrandom hsession
      h.suite_lt (by simpa [ExtensionType.supportedVersions, ExtensionType.keyShare] using hsmall.1) htotal
    refine ensures_lift_alerts hsized.alerts h fun encoded _ => ?_
    simp only [updateTranscript, emit, ensures_modify]
    exact h

lemma sized_certificate (chain : List Bytes) (h : (chain.map fun data => data.length + 5).sum + 4 < 256 ^ 3) :
    ∃ n, Sized (encodeCertificate ⟨[], chain.map (⟨·, []⟩)⟩) n := by
  have hentry : ∀ entry ∈ chain.map (⟨·, []⟩ : Bytes → CertificateEntry),
      Sized (encodeCertificateEntry entry) (entry.data.length + 5) := by
    intro entry hentry
    obtain ⟨data, hdata, rfl⟩ := List.mem_map.1 hentry
    have hle : data.length + 5 ≤ (chain.map fun data => data.length + 5).sum :=
      List.single_le_sum (fun _ _ => Nat.zero_le _) _ (List.mem_map_of_mem hdata)
    refine ((sized_vec 3 (show data.length < 256 ^ 3 by omega)).cons
      ((sized_extensions [] (List.forall_mem_nil _) (by decide)).cons sized_nil)).of_eq ?_
    simp only [Extension.total, List.map_nil, List.sum_nil]
    omega
  have hsum : ((chain.map (⟨·, []⟩ : Bytes → CertificateEntry)).map fun entry => entry.data.length + 5).sum =
      (chain.map fun data => data.length + 5).sum := by
    rw [List.map_map]
    rfl
  have hbody := (sized_vec 1 (show ([] : Bytes).length < 256 ^ 1 by decide)).cons
    ((sized_vecOf 3 hentry (by omega)).cons sized_nil)
  refine ⟨_, sized_handshakeMessage hbody ?_⟩
  rw [hsum]
  simp only [List.length_nil]
  omega

lemma Serves.certificateMessages (h : server.Serves setup) (hspeaks : setup.Speaks prims) :
    Upholds (Serves setup) (certificateMessages prims) server := by
  have hchain : (server.certificateChain.map fun data => data.length + 5).sum + 4 < 256 ^ 3 := by
    have hchain := hspeaks.chain
    rwa [← h.1] at hchain
  have hsigned : ∀ data, (prims.sign server.signingKey data).length < 256 ^ 2 := by
    have hsigned := hspeaks.signatures
    rwa [← h.1] at hsigned
  simp only [TlsServer.certificateMessages, ensures_state]
  obtain ⟨n, hsized⟩ := sized_certificate server.certificateChain hchain
  refine ensures_lift_alerts hsized.alerts h fun certificate _ => ?_
  simp only [updateTranscript, ensures_modify]
  refine ensures_lift_alerts ?_ h fun verify _ => ?_
  · have hsignature := hsigned (certificateVerifyContext ++
      (server.schedule.updateTranscript certificate).transcriptHash prims.toHashing)
    have halgorithm : (prims.signCertificateVerify server.signingKey
        ((server.schedule.updateTranscript certificate).transcriptHash prims.toHashing)).algorithm < 256 ^ 2 := by
      simp only [Asymmetric.signCertificateVerify]
      split_ifs <;> decide
    exact (sized_handshakeMessage ((sized_intToBytes halgorithm).cons ((sized_vec 2 hsignature).cons sized_nil))
      (by omega)).alerts
  · exact h

lemma Serves.sendFlight (h : server.Serves setup) (hspeaks : setup.Speaks prims)
    (halpn : alpn.length < 256) (resumes : Bool) :
    Upholds (Serves setup) (sendFlight prims alpn resumes) server := by
  have hparameters : server.transportParameters.length < 2 ^ 15 := by
    have hparameters := hspeaks.parameters
    rwa [← h.1] at hparameters
  have hitem : ∀ protocol ∈ [alpn], Sized (vec 1 protocol) (1 + protocol.length) := by
    intro protocol hprotocol
    obtain rfl := List.mem_singleton.1 hprotocol
    exact sized_vec 1 (by simpa using halpn)
  have hprotocols := sized_vecOf 2 hitem (by simp; omega)
  simp only [TlsServer.sendFlight, ensures_state]
  refine ensures_lift_alerts hprotocols.alerts h fun protocols hencoded => ?_
  have hlength := hprotocols.length hencoded
  simp only [List.map_cons, List.map_nil, List.sum_cons, List.sum_nil] at hlength
  refine ensures_lift_alerts ?_ h fun extensions _ => ?_
  · have htotal : Extension.total ([⟨ExtensionType.alpn, protocols⟩,
        ⟨ExtensionType.quicTransportParameters, server.transportParameters⟩] ++
        if server.earlyDataAccepted then [⟨ExtensionType.earlyData, []⟩] else []) < 256 ^ 2 := by
      split_ifs <;> simp [Extension.total] <;> omega
    refine (sized_handshakeMessage (sized_extensions _ ?_ htotal) (by omega)).alerts
    split_ifs <;> simp [ExtensionType.alpn, ExtensionType.quicTransportParameters, ExtensionType.earlyData]
  · have hfinish : ∀ certificates s, Serves setup s → Ensures (do
        let server ← get
        let finished ← lift (encodeFinished
          ⟨finishedVerifyData prims.toHashing server.serverHsSecret
            (server.schedule.transcriptHash prims.toHashing)⟩)
        updateTranscript finished
        emit (.sendData .handshake (extensions ++ certificates ++ finished))) s (fun _ => Serves setup)
          fun e s => IsAlert e ∧ Serves setup s := by
      intro certificates s hs
      simp only [ensures_state]
      refine ensures_lift_alerts (alerts_encodeFinished prims.toHashing _ _) hs fun finished _ => ?_
      simp only [updateTranscript, emit, ensures_modify]
      exact hs
    rw [TlsServer.updateTranscript, ensures_modify]
    cases resumes with
    | true => exact hfinish [] _ h
    | false =>
      have hnext : Serves setup { server with schedule := server.schedule.updateTranscript extensions } := h
      rw [if_neg Bool.false_ne_true, ensures_bind]
      exact (hnext.certificateMessages hspeaks).mono (fun certificates s hs => hfinish certificates s hs)
        fun _ _ he => he

lemma legacySessionId_lt (h : parseHandshakeMessage raw = .ok (.clientHello hello, length)) :
    hello.legacySessionId.length < 256 := by
  obtain ⟨-, hencoded⟩ := encode_of_parseHandshakeMessage h
  obtain ⟨body, hbody, -⟩ := bind_eq_ok.1 hencoded
  obtain ⟨_, others, -, hothers, -⟩ := concatEncoded_cons_ok.1 hbody
  obtain ⟨_, others', -, hothers', -⟩ := concatEncoded_cons_ok.1 hothers
  obtain ⟨session, _, hsession, -, -⟩ := concatEncoded_cons_ok.1 hothers'
  simpa using length_lt_of_vec hsession

section Offers

variable {α : Type} [BEq α] {items : List α} {x : Except Raised (List α)} {alert : ℕ} {reason : String}

lemma alerts_find (hx : Alerts x) : Alerts (x >>= fun offered =>
    (items.find? offered.contains).elim (.error (.tlsAlert alert reason)) .ok) := by
  refine hx.bind fun offered _ => ?_
  cases items.find? offered.contains with
  | none => exact alerts_alert _ _
  | some found => exact alerts_of_ok rfl

lemma mem_of_find {a : α} (h : (x >>= fun offered =>
    (items.find? offered.contains).elim (.error (.tlsAlert alert reason)) .ok) = .ok a) : a ∈ items := by
  obtain ⟨offered, -, h⟩ := bind_eq_ok.1 h
  cases hfound : items.find? offered.contains with
  | none =>
    rw [hfound] at h
    cases h
  | some found =>
    rw [hfound] at h
    cases h
    exact List.mem_of_find?_eq_some hfound

end Offers

lemma negotiateAlpn_eq (server : TlsServer) (hello : ClientHello) :
    server.negotiateAlpn hello = (((findExtension hello.extensions ExtensionType.alpn).elim (.ok []) parseAlpn) >>=
      fun offered => (server.protocols.find? offered.contains).elim
        (.error (.tlsAlert Alert.noApplicationProtocol "no ALPN protocol in common")) .ok) := by
  rw [TlsServer.negotiateAlpn]
  cases findExtension hello.extensions ExtensionType.alpn <;> refine bind_congr fun offered => ?_ <;>
    beta_reduce <;>
    cases server.protocols.find? offered.contains <;> rfl

lemma alerts_negotiateAlpn (hreads : setup.Reads prims now hello) : Alerts (server.negotiateAlpn hello) := by
  rw [negotiateAlpn_eq]
  apply alerts_find
  cases hdata : findExtension hello.extensions ExtensionType.alpn with
  | none => exact alerts_of_ok rfl
  | some data =>
    obtain ⟨protocols, hprotocols⟩ := hreads.protocols data hdata
    exact alerts_of_ok hprotocols

lemma mem_of_negotiateAlpn (h : server.negotiateAlpn hello = .ok alpn) : alpn ∈ server.protocols :=
  mem_of_find ((negotiateAlpn_eq server hello).symm.trans h)

lemma Serves.answerHello (h : server.Serves setup) (hspeaks : setup.Speaks prims)
    (hreads : setup.Reads prims now hello)
    (hnow : server.now = now) (hsession : hello.legacySessionId.length < 256) {peerPublic : Bytes}
    (hlength : peerPublic.length = 32) (hshared : (prims.sharedSecret setup.key peerPublic).isSome = true) :
    Upholds (Serves setup) (answerHello prims hello raw peerPublic) server := by
  rw [TlsServer.answerHello]
  cases findExtension hello.extensions ExtensionType.quicTransportParameters with
  | none => exact ⟨isAlert_tlsAlert _ _, h⟩
  | some clientTransportParameters =>
    simp only [ensures_state]
    refine ensures_lift_alerts (alerts_negotiateAlpn hreads) h fun alpn halpn => ?_
    have hlt : alpn.length < 256 := by
      have hprotocols := hspeaks.protocols
      rw [← h.1] at hprotocols
      exact hprotocols alpn (mem_of_negotiateAlpn halpn)
    refine (h.resolvePskOffer hspeaks hreads hnow alpn).mono ?_ fun _ _ he => he
    rintro selected s₁ ⟨h₁, hselected⟩
    have hindex : ∀ index state, selected = some (index, state) → index < 256 ^ 2 := by
      intro index state hsome
      obtain ⟨offer, identities, binders, -, hparsed, hmem⟩ := (hselected index state hsome).offered
      have hcount := length_lt_of_parseOfferedPsks hparsed
      omega
    refine (h₁.sendServerHello hspeaks hsession hindex).mono (fun _ s₂ h₂ => ?_) fun _ _ he => he
    rw [show server.key = setup.key from congrArg ServerSetup.key h.1]
    refine ensures_lift_alerts (alerts_exchange hlength hshared) h₂ fun shared _ => ?_
    simp only [emitHandshakeSecrets, ensures_modify]
    have h₃ : Serves setup { s₂ with
      schedule := (prims.handshakeSecrets s₂.schedule s₂.cipherSuite shared).1
      clientHsSecret := (prims.handshakeSecrets s₂.schedule s₂.cipherSuite shared).2.1
      serverHsSecret := (prims.handshakeSecrets s₂.schedule s₂.cipherSuite shared).2.2.1
      events := s₂.events ++ (prims.handshakeSecrets s₂.schedule s₂.cipherSuite shared).2.2.2 } := h₂
    refine (h₃.sendFlight hspeaks hlt selected.isSome).mono (fun _ s₄ h₄ => ?_) fun _ _ he => he
    simp only [emitApplicationSecrets, ensures_modify]
    exact ⟨h₄.1, h₄.2.1, hlt⟩

lemma commonGroup_eq (hello : ClientHello) : commonGroup hello =
    (((findExtension hello.extensions ExtensionType.supportedGroups).elim (.ok []) parseSupportedGroups) >>=
      fun offered => (supportedGroups.find? offered.contains).elim
        (.error (.tlsAlert Alert.handshakeFailure "no key exchange group in common")) .ok) := by
  rw [commonGroup]
  cases findExtension hello.extensions ExtensionType.supportedGroups <;> refine bind_congr fun offered => ?_ <;>
    beta_reduce <;>
    cases supportedGroups.find? offered.contains <;> rfl

lemma alerts_commonGroup (hreads : setup.Reads prims now hello) : Alerts (commonGroup hello) := by
  rw [commonGroup_eq]
  apply alerts_find
  cases hdata : findExtension hello.extensions ExtensionType.supportedGroups with
  | none => exact alerts_of_ok rfl
  | some data =>
    obtain ⟨groups, hgroups⟩ := hreads.groups data hdata
    exact alerts_of_ok hgroups

lemma mem_of_commonGroup (h : commonGroup hello = .ok group) : group ∈ supportedGroups :=
  mem_of_find ((commonGroup_eq hello).symm.trans h)

lemma Serves.onClientHello (h : server.Serves setup) (hspeaks : setup.Speaks prims)
    (hreads : setup.Reads prims now hello)
    (hnow : server.now = now) (hsession : hello.legacySessionId.length < 256) :
    Upholds (Serves setup) (onClientHello prims hello raw) server := by
  rw [TlsServer.onClientHello]
  cases hsuite : hello.cipherSuites.find? (supportedCipherSuites.contains ·) with
  | none => exact ⟨isAlert_tlsAlert _ _, h⟩
  | some suite =>
    have hsupported : suite ∈ supportedCipherSuites := by simpa using List.find?_some hsuite
    have hnext : Serves setup { server with cipherSuite := suite } := ⟨h.1, hsupported, h.2.2⟩
    simp only [ensures_bind, ensures_modify, ensures_raiseIf]
    refine ⟨fun _ => ⟨isAlert_tlsAlert _ _, hnext⟩, fun _ => ?_⟩
    cases hdata : findExtension hello.extensions ExtensionType.keyShare with
    | none =>
      simp only [helloKeyShare, hdata, lift_ok, ensures_pure, ensures_bind]
      refine ensures_lift_alerts (alerts_commonGroup hreads) hnext fun group hgroup => ?_
      exact hnext.sendHelloRetryRequest hsession (mem_of_commonGroup hgroup)
    | some data =>
      obtain ⟨share, hshare, husable⟩ := hreads.shares data hdata
      simp only [helloKeyShare, hdata, hshare, lift_ok, ensures_pure]
      cases share with
      | none =>
        rw [ensures_bind]
        refine ensures_lift_alerts (alerts_commonGroup hreads) hnext fun group hgroup => ?_
        exact hnext.sendHelloRetryRequest hsession (mem_of_commonGroup hgroup)
      | some peerPublic =>
        obtain ⟨hlength, hshared⟩ := husable peerPublic rfl
        exact hnext.answerHello hspeaks hreads hnow hsession hlength hshared

lemma sized_encodeIssuedAt (h : Dated now) : Sized (encodeIssuedAt (truncate now)) 8 := by
  have hnonneg : 0 ≤ truncate now := by
    rw [truncate_of_nonneg h.1]
    exact Int.floor_nonneg.2 h.1
  have hlt : truncate now < 2 ^ 64 := by
    rw [truncate_of_nonneg h.1, Int.floor_lt]
    exact_mod_cast h.2
  rw [encodeIssuedAt, if_neg (not_lt.2 hnonneg)]
  exact sized_intToBytes (by omega)

variable {draw : TicketDraw}

lemma Serves.issueSessionTicket (h : server.Serves setup) (hspeaks : setup.Speaks prims)
    (hdraw : draw.Fits) (hdated : Dated server.now) :
    Alerts (server.issueSessionTicket prims.toHashing draw) ∧ ∀ state ticket,
      server.issueSessionTicket prims.toHashing draw = .ok (some (state, ticket)) →
        Alerts (encodeNewSessionTicket ticket) := by
  have hparameters : server.transportParameters.length < 2 ^ 15 := by
    have hparameters := hspeaks.parameters
    rwa [← h.1] at hparameters
  rw [TlsServer.issueSessionTicket]
  cases server.ticketKey with
  | none => exact ⟨alerts_of_ok rfl, fun _ _ h => by cases h⟩
  | some key =>
    dsimp only
    split_ifs
    · have hage : fromBytes draw.ageAdd < 256 ^ 4 := hdraw.ageAdd ▸ fromBytes_lt draw.ageAdd
      have hplain :=
        (sized_encodeIssuedAt hdated).cons ((sized_intToBytes hage).cons ((sized_intToBytes h.suite_lt).cons
        ((sized_vec 1 (show server.alpn.length < 256 ^ 1 by simpa using h.2.2)).cons
          ((sized_vec 2 (show server.transportParameters.length < 256 ^ 2 by omega)).cons
            ((sized_ok (resumptionPsk prims.toHashing (server.schedule.resumptionMasterSecret prims.toHashing)
              draw.nonce)).cons sized_nil)))))
      have hsealed : Sized (sealTicket prims.toHashing key draw.sealNonce ⟨resumptionPsk prims.toHashing
          (server.schedule.resumptionMasterSecret prims.toHashing) draw.nonce, fromBytes draw.ageAdd, server.alpn,
          server.transportParameters, truncate server.now, server.cipherSuite⟩)
          (12 + (8 + (4 + (2 + (1 + server.alpn.length + (2 + server.transportParameters.length + (32 + 0)))))) +
            16) := by
        refine hplain.bind fun data hdata => ⟨_, rfl, ?_⟩
        rw [List.length_append, prims.length_aeadEncrypt, hdraw.sealNonce, hdata]
        simp only [resumptionPsk, prims.length_hkdfExpandLabel, ticketNonceLength, sha256Length, aeadTagLength]
        omega
      refine ⟨hsealed.alerts.bind fun _ _ => alerts_of_ok rfl, fun state ticket hissued => ?_⟩
      obtain ⟨sealed, hsealed', hissued⟩ := bind_eq_ok.1 hissued
      cases hissued
      have hlength := hsealed.length hsealed'
      have halpn := h.2.2
      have hextensions : Extension.total [⟨ExtensionType.earlyData, toBytes 4 maxEarlyDataSize⟩] = 8 := rfl
      have hbody := (sized_intToBytes (show sessionTicketLifetime < 256 ^ 4 by decide)).cons
        ((sized_intToBytes hage).cons
        ((sized_vec 1 (show draw.nonce.length < 256 ^ 1 by rw [hdraw.nonce]; decide)).cons
          ((sized_vec 2 (show sealed.length < 256 ^ 2 by omega)).cons
            ((sized_extensions [⟨ExtensionType.earlyData, toBytes 4 maxEarlyDataSize⟩]
              (by simp [ExtensionType.earlyData]) (by omega)).cons sized_nil))))
      refine (sized_handshakeMessage hbody ?_).alerts
      rw [hdraw.nonce, ticketNonceLength]
      omega
    · exact ⟨alerts_of_ok rfl, fun _ _ h => by cases h⟩

lemma Serves.onFinished (h : server.Serves setup) (hspeaks : setup.Speaks prims)
    (hdraw : draw.Fits) (hdated : Dated server.now) (message : Finished) :
    Upholds (Serves setup) (onFinished prims draw message raw) server := by
  simp only [TlsServer.onFinished, ensures_state, ensures_raiseIf, updateTranscript, emit]
  refine ⟨fun _ => ⟨isAlert_tlsAlert _ _, h⟩, fun _ => ?_⟩
  have hnext : Serves setup { server with
    schedule := server.schedule.updateTranscript raw
    events := server.events ++ [.handshakeComplete server.alpn server.clientTransportParameters]
    state := .connected } := h
  obtain ⟨halerts, hticket⟩ := hnext.issueSessionTicket hspeaks hdraw hdated
  refine ensures_lift_alerts halerts hnext fun issued hissued => ?_
  cases issued with
  | none => exact hnext
  | some issued =>
    rw [ensures_bind]
    refine ensures_lift_alerts (hticket issued.1 issued.2 hissued) hnext fun data _ => ?_
    rw [ensures_modify]
    exact hnext

lemma Serves.handle (h : server.Serves setup) (hspeaks : setup.Speaks prims) (hdraw : draw.Fits)
    (hdated : Dated now) {level : Level} {message : HandshakeMessage}
    (hparsed : parseHandshakeMessage raw = .ok (message, length))
    (hreads : ∀ hello, message = .clientHello hello → setup.Reads prims now hello) :
    Upholds (Serves setup) (TlsServer.handle prims draw now level message raw) server := by
  have hnow : Serves setup { server with now := now } := h
  simp only [TlsServer.handle, ensures_state, ensures_ite]
  refine ⟨fun _ => ⟨isAlert_tlsAlert _ _, hnow⟩, fun hstate => ?_⟩
  refine ensures_lift_alerts ?_ hnow fun expects _ =>
    ensures_lift_alerts (alerts_requireMessage expects level message) hnow fun _ _ => ?_
  · cases hs : server.state with
    | connected => exact absurd hs hstate
    | _ => exact alerts_of_ok rfl
  · cases message with
    | clientHello hello => exact hnow.onClientHello hspeaks (hreads hello rfl) rfl (legacySessionId_lt hparsed)
    | finished message => exact hnow.onFinished hspeaks hdraw hdated message
    | _ => exact hnow

end Steps

end TlsServer

namespace ServerSetup

variable {prims : Asymmetric} {setup : ServerSetup} {draw : TicketDraw} {h : Handshake TlsServer} {level : Level}
  {data : Bytes} {now : ℚ}

end ServerSetup

end Dsquic.Tls
