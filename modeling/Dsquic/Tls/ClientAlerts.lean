import Dsquic.Tls.Alerts
import Dsquic.Tls.Client

/-!
A client that is fed messages that can be decoded raises nothing but alerts.
-/

namespace Dsquic.Tls

open Lib Wire Buffer Recovery

structure ClientSetup where
  config : ClientConfig
  random : Bytes
  keys : List (ℕ × Bytes)
  retryKey : Bytes

def Verifiable (prims : Asymmetric) (data : Bytes) : Prop :=
  ∃ certificate, prims.loadCertificate data = some certificate ∧ (prims.keyKind certificate).isSome

namespace ClientSetup

variable (prims : Asymmetric) (setup : ClientSetup)

def client : TlsClient := .new prims setup.config setup.random setup.keys setup.retryKey

def privateKeys : List Bytes := setup.retryKey :: setup.keys.map (·.2)

def identityLength : ℕ :=
  match setup.config.sessionTicket with
  | some ticket => ticket.identity.length
  | none => 0

structure Speaks : Prop where
  random : setup.random.length = 32
  publicKey : (prims.publicKey setup.retryKey).length = 32
  suites : ∀ suite ∈ setup.config.cipherSuites, suite < 256 ^ 2
  suiteCount : setup.config.cipherSuites.length < 2 ^ 15
  protocols : ∀ protocol ∈ setup.config.alpn, protocol.length < 256
  size : setup.config.serverName.length + (setup.config.alpn.map fun protocol => 1 + protocol.length).sum +
    setup.config.transportParameters.length + setup.identityLength < 2 ^ 15
  anchors : ∀ data ∈ setup.config.caCertificates, (prims.loadCertificate data).isSome
  verifier : ∀ anchors leaf intermediates reason, prims.verifyChain anchors setup.config.verificationTime
    setup.config.serverName leaf intermediates ≠ .invalid reason

def Reads : HandshakeMessage → Prop
  | .serverHello hello => ∀ data, findExtension hello.extensions ExtensionType.keyShare = some data →
    Alerts (parseKeyShareEntry data) ∧ ∀ group peerPublic, parseKeyShareEntry data = .ok (group, peerPublic) →
      peerPublic.length = 32 ∧ ∀ key ∈ setup.privateKeys, (prims.sharedSecret key peerPublic).isSome
  | .encryptedExtensions message => ∀ data, findExtension message.extensions ExtensionType.alpn = some data →
    ∃ protocols, parseAlpn data = .ok protocols
  | .certificate message => ∀ entry ∈ message.entries, Verifiable prims entry.data
  | _ => True

end ClientSetup

namespace TlsClient

def Stands (prims : Asymmetric) (setup : ClientSetup) (client : TlsClient) : Prop :=
  (client.config = setup.config ∧ client.random = setup.random ∧ client.retryKey = setup.retryKey) ∧
    (∀ group key, client.keys.lookup group = some key → key ∈ setup.privateKeys) ∧ client.state ≠ .start ∧
    (client.state = .waitCertificateVerify → Verifiable prims client.leafCertificate)

section Hello

variable {prims : Asymmetric} {setup : ClientSetup} {client : TlsClient} {raw : Bytes}

lemma plainExtensions_ok (client : TlsClient) (hspeaks : setup.Speaks prims)
    (hconfig : client.config = setup.config)
    (hshares : client.shares = [(x25519Group, prims.publicKey setup.retryKey)]) :
    ∃ extensions, client.plainExtensions = .ok extensions ∧ (∀ ext ∈ extensions, ext.type < 256 ^ 2) ∧
      Extension.total extensions = (if client.earlyDataOffered then 4 else 0) + 92 +
        setup.config.serverName.length +
        (setup.config.alpn.map fun protocol => 1 + protocol.length).sum +
          setup.config.transportParameters.length := by
  have hsize := hspeaks.size
  have hkey := hspeaks.publicKey
  have hshare : ∀ share ∈ client.shares, Sized (concatEncoded [intToBytes share.1 2, vec 2 share.2]) 36 := by
    rw [hshares]
    intro share hshare
    obtain rfl := List.mem_singleton.1 hshare
    exact ((sized_intToBytes (show x25519Group < 256 ^ 2 by decide)).cons
      ((sized_vec 2 (by simp only [hkey]; decide)).cons sized_nil)).of_eq
      (by simp only [hkey])
  obtain ⟨shares, hshares', hsharesLength⟩ := sized_concat hshare
  obtain ⟨name, hname, hnameLength⟩ := sized_vec 2 (show setup.config.serverName.length < 256 ^ 2 by omega)
  obtain ⟨names, hnames, hnamesLength⟩ := sized_vec 2 (show (0 :: name).length < 256 ^ 2 by
    rw [List.length_cons]; omega)
  have hprotocol : ∀ protocol ∈ setup.config.alpn, Sized (vec 1 protocol) (1 + protocol.length) :=
    fun protocol hprotocol => sized_vec 1 (by simpa using hspeaks.protocols protocol hprotocol)
  obtain ⟨alpn, halpn, halpnLength⟩ := sized_vecOf 2 hprotocol (by omega)
  have hcount : shares.length = 36 := by simpa [hshares] using hsharesLength
  obtain ⟨block, hblock, hblockLength⟩ := sized_vec 2 (show shares.length < 256 ^ 2 by omega)
  have hextensions : client.plainExtensions = .ok ([⟨ExtensionType.serverName, names⟩,
      ⟨ExtensionType.supportedGroups, [0, 2, 0, 0x1D]⟩, ⟨ExtensionType.signatureAlgorithms, [0, 4, 8, 4, 4, 3]⟩,
      ⟨ExtensionType.alpn, alpn⟩, ⟨ExtensionType.supportedVersions, [2, 3, 4]⟩, ⟨ExtensionType.keyShare, block⟩,
      ⟨ExtensionType.quicTransportParameters, setup.config.transportParameters⟩,
      ⟨ExtensionType.pskKeyExchangeModes, [1, 1]⟩] ++
      if client.earlyDataOffered then [⟨ExtensionType.earlyData, []⟩] else []) := by
    rw [plainExtensions, hshares', hconfig]
    simp only [hname, hnames, halpn, hblock, bind, Except.bind]
    rfl
  refine ⟨_, hextensions, ?_, ?_⟩
  · split_ifs <;> simp [ExtensionType.serverName, ExtensionType.supportedGroups, ExtensionType.signatureAlgorithms,
      ExtensionType.alpn, ExtensionType.supportedVersions, ExtensionType.keyShare,
      ExtensionType.quicTransportParameters, ExtensionType.pskKeyExchangeModes, ExtensionType.earlyData]
  · rw [List.length_cons] at hnamesLength
    split_ifs <;> simp only [Extension.total, List.map_append, List.map_cons, List.map_nil, List.sum_append,
      List.sum_cons, List.sum_nil, List.length_cons, List.length_nil, hnamesLength, hnameLength, halpnLength,
      hblockLength, hcount] <;> omega

lemma offers_ok (client : TlsClient) (hconfig : client.config = setup.config)
    (hsize : setup.identityLength < 2 ^ 15) :
    ∃ extensions, client.offers = .ok extensions ∧ (∀ ext ∈ extensions, ext.type < 256 ^ 2) ∧
      Extension.total extensions ≤ setup.identityLength + 47 := by
  rw [offers, hconfig]
  rw [ClientSetup.identityLength] at hsize ⊢
  cases hticket : setup.config.sessionTicket with
  | none => exact ⟨[], rfl, List.forall_mem_nil _, Nat.zero_le _⟩
  | some ticket =>
    rw [hticket] at hsize
    dsimp only at hsize ⊢
    have hage :
      ((truncate ((client.now - ticket.receivedAt) * 1000) + ticket.ageAdd) % 2 ^ 32).toNat < 256 ^ 4 := by
      omega
    have hidentity : ∀ identity ∈ [(⟨ticket.identity, ((truncate ((client.now - ticket.receivedAt) * 1000) +
        ticket.ageAdd) % 2 ^ 32).toNat⟩ : PskIdentity)],
        Sized (encodePskIdentity identity) (ticket.identity.length + 6) := by
      intro identity hidentity
      obtain rfl := List.mem_singleton.1 hidentity
      exact ((sized_vec 2 (show ticket.identity.length < 256 ^ 2 by omega)).cons
        ((sized_intToBytes hage).cons sized_nil)).of_eq (by omega)
    have hbinder : ∀ binder ∈ [List.replicate sha256Length (0 : UInt8)], Sized (vec 1 binder) 33 := by
      intro binder hbinder
      obtain rfl := List.mem_singleton.1 hbinder
      exact (sized_vec 1 (by decide)).of_eq (by decide)
    obtain ⟨offer, hoffer, hlength⟩ := (sized_vecOf 2 hidentity (by simp; omega)).cons
      ((sized_vecOf 2 hbinder (by decide)).cons sized_nil)
    refine ⟨[⟨ExtensionType.preSharedKey, offer⟩], ?_, by simp [ExtensionType.preSharedKey], ?_⟩
    · rw [pskOffer, encodeOfferedPsks, encodeBinders, hoffer]
      rfl
    · simp only [Extension.total, List.map_cons, List.map_nil, List.sum_cons, List.sum_nil, hlength]
      omega

lemma buildClientHello_alerts (hspeaks : setup.Speaks prims) (hconfig : client.config = setup.config)
    (hrandom : client.random = setup.random)
    (hshares : client.shares = [(x25519Group, prims.publicKey setup.retryKey)]) :
    Ensures buildClientHello client
      (fun hello client' => Alerts (encodeClientHello hello) ∧ ∃ offered suite, client' =
        { client with earlyDataOffered := offered, cipherSuite := suite }) fun _ _ => False := by
  have hsize := hspeaks.size
  have hbuilt : ∀ offered suite, Ensures (do
      let client ← get
      let extensions ← lift client.plainExtensions
      let offers ← lift client.offers
      return (⟨client.random, [], client.config.cipherSuites, extensions ++ offers⟩ : ClientHello))
      { client with earlyDataOffered := offered, cipherSuite := suite }
      (fun hello client' => Alerts (encodeClientHello hello) ∧ ∃ offered suite, client' =
        { client with earlyDataOffered := offered, cipherSuite := suite }) fun _ _ => False := by
    intro offered suite
    obtain ⟨extensions, hextensions, htypes, htotal⟩ := plainExtensions_ok
      { client with earlyDataOffered := offered, cipherSuite := suite } hspeaks hconfig hshares
    obtain ⟨offers, hoffers, htypes', htotal'⟩ := offers_ok
      { client with earlyDataOffered := offered, cipherSuite := suite } hconfig (by omega)
    simp only [ensures_state, hextensions, hoffers, lift_ok]
    refine ⟨?_, offered, suite, rfl⟩
    have hall : Extension.total (extensions ++ offers) = Extension.total extensions + Extension.total offers := by
      simp [Extension.total]
    have hlimit : Extension.total (extensions ++ offers) < 256 ^ 2 := by
      rw [hall, htotal]
      split_ifs <;> omega
    have hsuite : ∀ suite ∈ client.config.cipherSuites, Sized (intToBytes suite 2) 2 := by
      rw [hconfig]
      exact fun suite hsuite => sized_intToBytes (hspeaks.suites suite hsuite)
    have hcount : (client.config.cipherSuites.map fun _ => 2).sum = 2 * client.config.cipherSuites.length := by
      simp [Nat.mul_comm]
    have hfew := hspeaks.suiteCount
    rw [← hconfig] at hfew
    have hbody :=
      (sized_intToBytes (show tlsLegacyVersion < 256 ^ 2 by decide)).cons ((sized_ok client.random).cons
      ((sized_vec 1 (show ([] : Bytes).length < 256 ^ 1 by decide)).cons ((sized_vecOf 2 hsuite (by omega)).cons
        ((sized_vec 1 (show ([0] : Bytes).length < 256 ^ 1 by decide)).cons ((sized_extensions _
          (List.forall_mem_append.2 ⟨htypes, htypes'⟩) hlimit).cons sized_nil)))))
    refine (sized_handshakeMessage hbody ?_).alerts
    rw [hrandom, hspeaks.random, hcount]
    simp only [List.length_nil, List.length_singleton]
    omega
  simp only [buildClientHello]
  rw [ensures_bind, ensures_modify]
  exact hbuilt _ _

end Hello

section Steps

variable {prims : Asymmetric} {setup : ClientSetup} {client : TlsClient} {raw : Bytes} {hello : ServerHello}

lemma alerts_retryGroup (hello : ServerHello) : Alerts (client.retryGroup hello) := by
  simp only [retryGroup]
  split_ifs <;> first | exact alerts_alert _ _ | exact alerts_of_ok rfl

lemma Stands.recordHello (h : client.Stands prims setup) (hashing : Hashing) :
    Upholds (Stands prims setup) (recordHello hashing raw) client := by
  simp only [TlsClient.recordHello, ensures_flow]
  refine ⟨fun _ => ?_, fun _ => h⟩
  simp only [fillPskBinder, ensures_bind]
  refine ensures_lift_alerts (alerts_binderTranscript raw 1) h fun truncated _ => ?_
  simp only [updateTranscript, ensures_state]
  exact h

lemma Stands.onHelloRetryRequest (h : client.Stands prims setup) (hspeaks : setup.Speaks prims)
    (hstate : client.state = .waitServerHello) (hello : ServerHello) :
    Upholds (Stands prims setup) (onHelloRetryRequest prims hello raw) client := by
  obtain ⟨⟨hconfig, hrandom, hretry⟩, -, hstarted, -⟩ := id h
  simp only [TlsClient.onHelloRetryRequest, ensures_bind, ensures_get]
  refine ensures_lift_alerts (alerts_retryGroup hello) h fun group hgroup => ?_
  obtain ⟨-, rfl⟩ := retryGroup_ok hgroup
  rw [ensures_set]
  have hunverified : client.state ≠ .waitCertificateVerify := by simp [hstate]
  have hkeys : ∀ group key, List.lookup group [(x25519Group, client.retryKey)] = some key →
    key ∈ setup.privateKeys := by
    intro group key hkey
    obtain rfl : client.retryKey = key := by
      rw [List.lookup_cons] at hkey
      split at hkey
      · exact Option.some.inj hkey
      · simp at hkey
    rw [hretry]
    exact List.mem_cons_self
  have hshares : [(x25519Group, prims.publicKey client.retryKey)] =
      [(x25519Group, prims.publicKey setup.retryKey)] := by rw [hretry]
  refine Ensures.mono (buildClientHello_alerts hspeaks (by exact hconfig) (by exact hrandom) (by exact hshares)) ?_
    fun _ _ hfalse => hfalse.elim
  rintro hello' _ ⟨halerts, offered, suite, rfl⟩
  refine ensures_lift_alerts halerts ⟨⟨hconfig, hrandom, hretry⟩, hkeys, hstarted, fun hs => absurd hs hunverified⟩
    fun retry _ => ?_
  refine Ensures.mono (Stands.recordHello (by exact ⟨⟨hconfig, hrandom, hretry⟩, hkeys, hstarted,
    fun hs => absurd hs hunverified⟩) prims.toHashing) (fun _ s hs => ?_) fun _ _ he => he
  rw [ensures_modify]
  exact ⟨hs.1, hs.2.1, fun hstart => ClientState.noConfusion hstart, fun hwaits => ClientState.noConfusion hwaits⟩

lemma readServerHello_spec (h : client.Stands prims setup) (hreads : setup.Reads prims (.serverHello hello)) :
    Alerts (client.readServerHello hello) ∧ ∀ key peerPublic, client.readServerHello hello =
      .ok (key, peerPublic) →
      peerPublic.length = 32 ∧ (prims.sharedSecret key peerPublic).isSome := by
  rw [readServerHello]
  split_ifs
  · exact ⟨alerts_alert _ _, fun _ _ h => by cases h⟩
  · cases hdata : findExtension hello.extensions ExtensionType.keyShare with
    | none => exact ⟨alerts_alert _ _, fun _ _ h => by cases h⟩
    | some data =>
      obtain ⟨halerts, husable⟩ := hreads data hdata
      constructor
      · refine halerts.bind fun entry _ => ?_
        dsimp only
        cases client.keys.lookup entry.1 with
        | none => exact alerts_alert _ _
        | some key => exact alerts_of_ok rfl
      · intro key peerPublic hread
        obtain ⟨entry, hentry, hread⟩ := bind_eq_ok.1 hread
        dsimp only at hread
        cases hkey : client.keys.lookup entry.1 with
        | none => simp [hkey] at hread
        | some ours =>
          simp only [hkey, Except.ok.injEq, Prod.mk.injEq] at hread
          obtain ⟨rfl, rfl⟩ := hread
          obtain ⟨hlength, hshared⟩ := husable entry.1 entry.2 hentry
          exact ⟨hlength, hshared ours (h.2.1 entry.1 ours hkey)⟩

lemma Stands.settleOffer (h : client.Stands prims setup) (hello : ServerHello) :
    Upholds (Stands prims setup) (settleOffer hello) client := by
  simp only [TlsClient.settleOffer, ensures_state]
  cases findExtension hello.extensions ExtensionType.preSharedKey with
  | none => exact h
  | some selected =>
    simp only [ensures_flow]
    exact ⟨fun _ => ⟨isAlert_tlsAlert _ _, h⟩, fun _ => ⟨fun _ => ⟨isAlert_tlsAlert _ _, h⟩, fun _ => h⟩⟩

lemma Stands.onServerHello (h : client.Stands prims setup) (hspeaks : setup.Speaks prims)
    (hstate : client.state = .waitServerHello) (hreads : setup.Reads prims (.serverHello hello)) :
    Upholds (Stands prims setup) (onServerHello prims hello raw) client := by
  simp only [TlsClient.onServerHello, ensures_ite]
  refine ⟨fun _ => h.onHelloRetryRequest hspeaks hstate hello, fun _ => ?_⟩
  obtain ⟨halerts, husable⟩ := readServerHello_spec h hreads
  simp only [ensures_state, ensures_raiseIf]
  refine ⟨fun _ => ⟨isAlert_tlsAlert _ _, h⟩, fun _ => ⟨fun _ => ⟨isAlert_tlsAlert _ _, h⟩, fun _ => ?_⟩⟩
  have hnext : Stands prims setup { client with cipherSuite := hello.cipherSuite } := h
  refine ensures_lift_alerts halerts hnext fun agreed hagreed => ?_
  refine (hnext.settleOffer hello).mono (fun _ s hs => ?_) fun _ _ he => he
  obtain ⟨hlength, hshared⟩ := husable agreed.1 agreed.2 hagreed
  simp only [updateTranscript, ensures_modify]
  refine ensures_lift_alerts (alerts_exchange hlength hshared) hs fun shared _ => ?_
  simp only [emitHandshakeSecrets, ensures_modify]
  exact ⟨hs.1, hs.2.1, fun hstart => ClientState.noConfusion hstart, fun hwaits => ClientState.noConfusion hwaits⟩

lemma Stands.onEncryptedExtensions (h : client.Stands prims setup) {message : EncryptedExtensions}
    (hreads : setup.Reads prims (.encryptedExtensions message)) :
    Upholds (Stands prims setup) (onEncryptedExtensions message raw) client := by
  simp only [TlsClient.onEncryptedExtensions, ensures_state]
  refine ensures_lift_alerts ?_ h fun selected _ => ?_
  · rw [selectedAlpn]
    cases hdata : findExtension message.extensions ExtensionType.alpn with
    | none => exact alerts_alert _ _
    | some data =>
      obtain ⟨protocols, hprotocols⟩ := hreads data hdata
      refine (alerts_of_ok hprotocols).bind fun offered _ => ?_
      split
      · split_ifs
        · exact alerts_of_ok rfl
        · exact alerts_alert _ _
      · exact alerts_alert _ _
  · cases findExtension message.extensions ExtensionType.quicTransportParameters with
    | none => exact ⟨isAlert_tlsAlert _ _, h⟩
    | some parameters =>
      rw [ensures_bind]
      refine ensures_lift_alerts ?_ h fun accepted _ => ?_
      · rw [acceptedEarlyData]
        split_ifs
        · exact alerts_of_ok rfl
        · exact alerts_alert _ _
        · exact alerts_alert _ _
        · cases client.config.sessionTicket with
          | none => exact alerts_of_ok rfl
          | some ticket =>
            dsimp only
            split_ifs
            · exact alerts_alert _ _
            · exact alerts_alert _ _
            · exact alerts_of_ok rfl
      · rw [ensures_set]
        refine ⟨h.1, h.2.1, ?_, ?_⟩ <;> cases client.resumed <;> simp

lemma loadDer_ok {data : Bytes} (h : (prims.loadCertificate data).isSome = true) :
    ∃ certificate, prims.loadDer data = .ok certificate := by
  obtain ⟨certificate, hsome⟩ := Option.isSome_iff_exists.1 h
  exact ⟨certificate, by rw [Asymmetric.loadDer, hsome]⟩

lemma mapM_ok {α β : Type} {f : α → Except Raised β} {items : List α} (h : ∀ item ∈ items, ∃ b, f item = .ok b) :
    ∃ bs, items.mapM f = .ok bs := by
  induction items with
  | nil => exact ⟨[], rfl⟩
  | cons item items ih =>
    rw [List.forall_mem_cons] at h
    obtain ⟨b, hb⟩ := h.1
    obtain ⟨bs, hbs⟩ := ih h.2
    refine ⟨b :: bs, ?_⟩
    rw [List.mapM_cons, hb, hbs]
    rfl

lemma alerts_verifyCertificatePolicy (hspeaks : setup.Speaks prims) {leaf : CertificateEntry}
    {others : List CertificateEntry} (h : ∀ entry ∈ leaf :: others, Verifiable prims entry.data) :
    Alerts (verifyCertificatePolicy prims setup.config leaf others) := by
  have hloads : ∀ entry ∈ leaf :: others, ∃ certificate, prims.loadDer entry.data = .ok certificate := by
    intro entry hentry
    obtain ⟨certificate, hcertificate, -⟩ := h entry hentry
    exact loadDer_ok (by simp [hcertificate])
  rw [List.forall_mem_cons] at hloads
  obtain ⟨first, hfirst⟩ := hloads.1
  obtain ⟨intermediates, hintermediates⟩ := mapM_ok hloads.2
  obtain ⟨anchors, hanchors⟩ := mapM_ok fun data hdata => loadDer_ok (hspeaks.anchors data hdata)
  refine (alerts_of_ok hfirst).bind fun first _ => (alerts_of_ok hintermediates).bind fun intermediates _ =>
    (alerts_of_ok hanchors).bind fun anchors _ => ?_
  cases hverdict :
    prims.verifyChain anchors setup.config.verificationTime setup.config.serverName first intermediates with
  | accepted => exact alerts_of_ok rfl
  | rejected reason => exact alerts_alert _ _
  | invalid reason => exact absurd hverdict (hspeaks.verifier _ _ _ _)

lemma Stands.onCertificate (h : client.Stands prims setup) (hspeaks : setup.Speaks prims) {message : Certificate}
    (hreads : setup.Reads prims (.certificate message)) :
    Upholds (Stands prims setup) (onCertificate prims message raw) client := by
  have hentries : ∀ entry ∈ message.entries, Verifiable prims entry.data := hreads
  simp only [TlsClient.onCertificate]
  cases hlist : message.entries with
  | nil => exact ⟨isAlert_tlsAlert _ _, h⟩
  | cons leaf others =>
    rw [hlist] at hentries
    have hleaf := hentries leaf List.mem_cons_self
    have hnext : Stands prims setup { client with leafCertificate := leaf.data } :=
      ⟨h.1, h.2.1, h.2.2.1, fun _ => hleaf⟩
    have hdone : Stands prims setup { client with
        leafCertificate := leaf.data
        schedule := client.schedule.updateTranscript raw
        state := .waitCertificateVerify } :=
      ⟨h.1, h.2.1, fun hstart => ClientState.noConfusion hstart, fun _ => hleaf⟩
    simp only [ensures_state, ensures_doIf, updateTranscript]
    refine ⟨fun _ => ?_, fun _ => hdone⟩
    refine ensures_lift_alerts ?_ hnext fun _ _ => hdone
    rw [h.1.1]
    exact alerts_verifyCertificatePolicy hspeaks hentries

lemma alerts_verifyCertificateVerify {leaf : Bytes} (h : Verifiable prims leaf) (message : CertificateVerify)
    (transcriptHash : Bytes) : Alerts (prims.verifyCertificateVerify leaf message transcriptHash) := by
  obtain ⟨certificate, hcertificate, hknown⟩ := h
  obtain ⟨kind, hkind⟩ := Option.isSome_iff_exists.1 hknown
  have hloaded : prims.loadDer leaf = .ok certificate := by rw [Asymmetric.loadDer, hcertificate]
  have hkind' : prims.certificateKind certificate = .ok kind := by rw [Asymmetric.certificateKind, hkind]
  refine (alerts_of_ok hloaded).bind fun same hsame => ?_
  cases hloaded.symm.trans hsame
  refine (alerts_of_ok hkind').bind fun _ _ => ?_
  split_ifs
  · exact alerts_alert _ _
  · exact alerts_alert _ _
  · exact alerts_of_ok rfl

lemma Stands.onCertificateVerify (h : client.Stands prims setup) (hstate : client.state = .waitCertificateVerify)
    (message : CertificateVerify) :
    Upholds (Stands prims setup) (onCertificateVerify prims message raw) client := by
  simp only [TlsClient.onCertificateVerify, ensures_state]
  refine ensures_lift_alerts (alerts_verifyCertificateVerify (h.2.2.2 hstate) message _) h fun _ _ => ?_
  simp only [updateTranscript, ensures_modify]
  exact ⟨h.1, h.2.1, fun hstart => ClientState.noConfusion hstart, fun hwaits => ClientState.noConfusion hwaits⟩

lemma Stands.onFinished (h : client.Stands prims setup) (message : Finished) :
    Upholds (Stands prims setup) (onFinished prims message raw) client := by
  simp only [TlsClient.onFinished, ensures_state, ensures_raiseIf, updateTranscript, emitApplicationSecrets]
  refine ⟨fun _ => ⟨isAlert_tlsAlert _ _, h⟩, fun _ => ?_⟩
  refine ensures_lift_alerts (alerts_encodeFinished prims.toHashing _ _) h fun finished _ => ?_
  exact ⟨h.1, h.2.1, fun hstart => ClientState.noConfusion hstart, fun hwaits => ClientState.noConfusion hwaits⟩

lemma Stands.handle (h : client.Stands prims setup) (hspeaks : setup.Speaks prims) {now : ℚ} {level : Level}
    {message : HandshakeMessage} (hreads : setup.Reads prims message) :
    Upholds (Stands prims setup) (TlsClient.handle prims now level message raw) client := by
  have hnow : Stands prims setup { client with now := now } := h
  simp only [TlsClient.handle, ensures_state, ensures_ite]
  refine ⟨fun _ => ?_, fun hunconnected => ?_⟩
  · cases message with
    | newSessionTicket ticket =>
      simp only [storeSessionTicket, ensures_state, ensures_raiseIf]
      exact ⟨fun _ => ⟨isAlert_tlsAlert _ _, hnow⟩, fun _ => hnow⟩
    | _ => exact ⟨isAlert_tlsAlert _ _, hnow⟩
  · refine ensures_lift_alerts ?_ hnow fun expects hexpects =>
      ensures_lift_alerts (alerts_requireMessage expects level message) hnow fun _ hrequired => ?_
    · cases hs : client.state with
      | start => exact absurd hs h.2.2.1
      | connected => exact absurd hs hunconnected
      | _ => exact alerts_of_ok rfl
    · rw [requireMessage_ok hrequired] at hexpects
      have hwaits : ∀ state, client.state = state → clientExpects state = .ok (message.messageType, level) := by
        rintro _ rfl
        exact hexpects
      cases message with
      | serverHello hello =>
        have hstate : client.state = .waitServerHello := by
          cases hs : client.state <;> first | rfl | cases hwaits _ hs
        exact hnow.onServerHello hspeaks hstate hreads
      | encryptedExtensions message => exact hnow.onEncryptedExtensions hreads
      | certificate message => exact hnow.onCertificate hspeaks hreads
      | certificateVerify message =>
        have hstate : client.state = .waitCertificateVerify := by
          cases hs : client.state <;> first | rfl | cases hwaits _ hs
        exact hnow.onCertificateVerify hstate message
      | finished message => exact hnow.onFinished message
      | _ => exact hnow

end Steps

end TlsClient

namespace ClientSetup

variable {prims : Asymmetric} {setup : ClientSetup} {h : Handshake TlsClient} {level : Level}
  {data : Bytes} {now : ℚ}

end ClientSetup

end Dsquic.Tls
