import Dsquic.Tls.Client
import Dsquic.Tls.Server

/-!
A client completes its handshake with an authenticated server only: in the order of the protocol, and over the
messages that were received.
-/

namespace Dsquic.Tls

open Lib Wire Buffer Recovery

abbrev Handled := Level × HandshakeMessage × Bytes

def TlsEvent.completes : TlsEvent → Bool
  | .handshakeComplete _ _ => true
  | .sendData _ _ | .secretAvailable _ _ _ _ => false

def completions (events : List TlsEvent) : ℕ := events.countP (·.completes)

@[simp] lemma completions_nil : completions [] = 0 := rfl

@[simp] lemma completions_cons (event : TlsEvent) (events : List TlsEvent) :
    completions (event :: events) = completions events + if event.completes then 1 else 0 := List.countP_cons

@[simp] lemma completions_append (events more : List TlsEvent) :
    completions (events ++ more) = completions events + completions more := List.countP_append

def TlsEvent.hello : TlsEvent → Option Bytes
  | .sendData .initial data => some data
  | _ => none

def hellos (events : List TlsEvent) : List Bytes := events.filterMap (·.hello)

@[simp] lemma hellos_append (events more : List TlsEvent) :
    hellos (events ++ more) = hellos events ++ hellos more :=
  List.filterMap_append

structure Opening where
  config : ClientConfig
  keys : List (ℕ × Bytes)
  retryKey : Bytes

namespace Opening

variable (o : Opening)

def sharedKeys (retried : Bool) : List (ℕ × Bytes) := if retried then [(x25519Group, o.retryKey)] else o.keys

def Resumes (hello : ServerHello) : Prop :=
  o.config.sessionTicket.isSome = true ∧
    (findExtension hello.extensions ExtensionType.preSharedKey).map fromBytes = some 0

def psk (resumed : Bool) : Option Bytes := if resumed then o.config.sessionTicket.map (·.psk) else none

end Opening

section Protocol

variable (prims : Asymmetric) (o : Opening)

def messageHash (transcript : Bytes) : Bytes :=
  254 :: toBytes 3 (prims.sha256 transcript).length ++ prims.sha256 transcript

inductive Greeting : List Bytes → Bool → List Handled → Bytes → Prop
  | once (first : Bytes) : Greeting [first] false [] first
  | retried (hello : ServerHello) (first raw second : Bytes) (h : hello.random = helloRetryRequestRandom) :
      Greeting [first, second] true [(.initial, .serverHello hello, raw)]
        (messageHash prims first ++ raw ++ second)

def serverSecret (psk : Option Bytes) (transcript shared : Bytes) : Bytes :=
  (((KeySchedule.new prims.toHashing psk).updateTranscript transcript).addEcdhe prims.toHashing
    shared).serverHandshakeTrafficSecret prims.toHashing

def Agrees (keys : List (ℕ × Bytes)) (hello : ServerHello) (shared : Bytes) : Prop :=
  ∃ entry group key peerPublic, findExtension hello.extensions ExtensionType.keyShare = some entry ∧
    parseKeyShareEntry entry = .ok (group, peerPublic) ∧ keys.lookup group = some key ∧
    prims.exchange key peerPublic = .ok shared

structure ClientView where
  sent : List Bytes
  state : ClientState
  helloRetried : Bool
  resumed : Bool
  transcript : Bytes
  leafCertificate : Bytes
  serverHsSecret : Bytes

inductive Progress : List Handled → ClientView → Prop
  | greeting {accepted : List Handled} {sent : List Bytes} {retried : Bool} {transcript leaf secret : Bytes}
      (h : Greeting prims sent retried accepted transcript) :
      Progress accepted ⟨sent, .waitServerHello, retried, false, transcript, leaf, secret⟩
  | serverHello {accepted : List Handled} {sent : List Bytes} {retried : Bool} {transcript leaf secret : Bytes}
    (hello : ServerHello)
      (raw shared : Bytes) (resumed : Bool)
      (h : Progress accepted ⟨sent, .waitServerHello, retried, false, transcript, leaf, secret⟩)
      (hrandom : hello.random ≠ helloRetryRequestRandom) (hresumed : resumed = true ↔ o.Resumes hello)
      (hshared : Agrees prims (o.sharedKeys retried) hello shared) :
      Progress (accepted ++ [(.initial, .serverHello hello, raw)])
        ⟨sent, .waitEncryptedExtensions, retried, resumed, transcript ++ raw, leaf,
          serverSecret prims (o.psk resumed) (transcript ++ raw) shared⟩
  | encryptedExtensions {accepted : List Handled} {sent : List Bytes} {retried : Bool}
    {transcript leaf secret : Bytes}
      (message : EncryptedExtensions) (raw : Bytes)
      (h : Progress accepted ⟨sent, .waitEncryptedExtensions, retried, false, transcript, leaf, secret⟩) :
      Progress (accepted ++ [(.handshake, .encryptedExtensions message, raw)])
        ⟨sent, .waitCertificate, retried, false, transcript ++ raw, leaf, secret⟩
  | resumed {accepted : List Handled} {sent : List Bytes} {retried : Bool} {transcript leaf secret : Bytes}
      (message : EncryptedExtensions) (raw : Bytes)
      (h : Progress accepted ⟨sent, .waitEncryptedExtensions, retried, true, transcript, leaf, secret⟩) :
      Progress (accepted ++ [(.handshake, .encryptedExtensions message, raw)])
        ⟨sent, .waitFinished, retried, true, transcript ++ raw, leaf, secret⟩
  | certificate {accepted : List Handled} {sent : List Bytes} {retried resumed : Bool}
    {transcript leaf secret : Bytes}
      (message : Certificate) (raw : Bytes) (entry : CertificateEntry) (others : List CertificateEntry)
      (h : Progress accepted ⟨sent, .waitCertificate, retried, resumed, transcript, leaf, secret⟩)
      (hentries : message.entries = entry :: others)
      (hpolicy : o.config.insecureSkipVerify = false →
        TlsClient.verifyCertificatePolicy prims o.config entry others = .ok ⟨⟩) :
      Progress (accepted ++ [(.handshake, .certificate message, raw)])
        ⟨sent, .waitCertificateVerify, retried, resumed, transcript ++ raw, entry.data, secret⟩
  | certificateVerify {accepted : List Handled} {sent : List Bytes} {retried resumed : Bool}
    {transcript leaf secret : Bytes}
      (message : CertificateVerify) (raw : Bytes)
      (h : Progress accepted ⟨sent, .waitCertificateVerify, retried, resumed, transcript, leaf, secret⟩)
      (hverified : prims.verifyCertificateVerify leaf message (prims.sha256 transcript) = .ok ⟨⟩) :
      Progress (accepted ++ [(.handshake, .certificateVerify message, raw)])
        ⟨sent, .waitFinished, retried, resumed, transcript ++ raw, leaf, secret⟩
  | finished {accepted : List Handled} {sent : List Bytes} {retried resumed : Bool}
    {transcript leaf secret : Bytes} (message : Finished)
      (raw : Bytes) (transcript' : Bytes)
      (h : Progress accepted ⟨sent, .waitFinished, retried, resumed, transcript, leaf, secret⟩)
      (hverified : message.verifyData = finishedVerifyData prims.toHashing secret (prims.sha256 transcript)) :
      Progress (accepted ++ [(.handshake, .finished message, raw)])
        ⟨sent, .connected, retried, resumed, transcript', leaf, secret⟩
  | ticket {accepted : List Handled} {view : ClientView} (level : Level) (message : NewSessionTicket) (raw : Bytes)
      (h : Progress accepted view) (hconnected : view.state = .connected) :
      Progress (accepted ++ [(level, .newSessionTicket message, raw)]) view

end Protocol

section Authenticated

variable (prims : Asymmetric) (o : Opening)

def rawBytes (messages : List Handled) : Bytes := (messages.map (·.2.2)).flatten

/-- What a server shows for itself behind the `transcript`: nothing more if it knows the PSK, or a certificate that
passes the policy, and a signature over the transcript with the key of the certificate. -/
inductive Credentials (transcript : Bytes) : Bool → List Handled → Prop
  | psk : Credentials transcript true []
  | certificate (message : Certificate) (verify : CertificateVerify) (raw raw' : Bytes) (entry : CertificateEntry)
      (others : List CertificateEntry) (certificate : prims.Cert) (hentries : message.entries = entry :: others)
      (hpolicy : o.config.insecureSkipVerify = false →
        TlsClient.verifyCertificatePolicy prims o.config entry others = .ok ⟨⟩)
      (hloaded : prims.loadCertificate entry.data = some certificate)
      (hverified : prims.verifySignature certificate verify.signature
        (certificateVerifyContext ++ prims.sha256 (transcript ++ raw)) = true) :
      Credentials transcript false
        [(.handshake, .certificate message, raw), (.handshake, .certificateVerify verify, raw')]

/-- The messages of a server that is authenticated, in their order and at their levels, and what came `later`. -/
inductive Authenticated (sent : List Bytes) : List Handled → Prop
  | intro {retried resumed : Bool} {greeting credentials : List Handled} {transcript : Bytes} (hello : ServerHello)
      (extensions : EncryptedExtensions) (finished : Finished) (raw raw' raw'' shared : Bytes)
        (later : List Handled)
      (hgreeting : Greeting prims sent retried greeting transcript)
        (hrandom : hello.random ≠ helloRetryRequestRandom)
      (hresumed : resumed = true ↔ o.Resumes hello) (hshared : Agrees prims (o.sharedKeys retried) hello shared)
      (hcredentials : Credentials prims o (transcript ++ raw ++ raw') resumed credentials)
      (hfinished : finished.verifyData = finishedVerifyData prims.toHashing
        (serverSecret prims (o.psk resumed) (transcript ++ raw) shared)
        (prims.sha256 (transcript ++ raw ++ raw' ++ rawBytes credentials))) :
      Authenticated sent
        (greeting ++ [(.initial, .serverHello hello, raw), (.handshake, .encryptedExtensions extensions, raw')] ++
        credentials ++ [(.handshake, .finished finished, raw'')] ++ later)

lemma Authenticated.append {prims : Asymmetric} {o : Opening} {sent : List Bytes} {accepted : List Handled}
    (h : Authenticated prims o sent accepted) (more : List Handled) :
    Authenticated prims o sent (accepted ++ more) := by
  obtain ⟨hello, extensions, finished, raw, raw', raw'', shared, later, hgreeting, hrandom, hresumed, hshared,
    hcredentials, hfinished⟩ := h
  rw [List.append_assoc]
  exact .intro hello extensions finished raw raw' raw'' shared (later ++ more) hgreeting hrandom hresumed hshared
    hcredentials hfinished

end Authenticated

variable {hello : ServerHello}

section Stages

variable {prims : Asymmetric} {o : Opening} {accepted : List Handled} {v : ClientView}

lemma Greeting.eq_first {sent : List Bytes} {transcript : Bytes} {retried : Bool}
    (h : Greeting prims sent retried accepted transcript) (hretried : retried = false) :
    accepted = [] ∧ sent = [transcript] := by
  cases h with
  | once => exact ⟨rfl, rfl⟩
  | retried => cases hretried

lemma Progress.greeting_of_waiting (h : Progress prims o accepted v) (hstate : v.state = .waitServerHello) :
    v.resumed = false ∧ Greeting prims v.sent v.helloRetried accepted v.transcript := by
  cases h with
  | greeting h => exact ⟨rfl, h⟩
  | ticket level message raw h hconnected => exact absurd (hstate.symm.trans hconnected) (by decide)
  | _ => cases hstate

structure Greeted (prims : Asymmetric) (o : Opening) (accepted : List Handled) (v : ClientView)
    (hello : ServerHello)
    (greeting : List Handled) (transcript raw shared : Bytes) : Prop where
  begins : Greeting prims v.sent v.helloRetried greeting transcript
  random : hello.random ≠ helloRetryRequestRandom
  resumes : v.resumed = true ↔ o.Resumes hello
  agrees : Agrees prims (o.sharedKeys v.helloRetried) hello shared
  messages : accepted = greeting ++ [(.initial, .serverHello hello, raw)]
  ends : v.transcript = transcript ++ raw
  secret : v.serverHsSecret = serverSecret prims (o.psk v.resumed) (transcript ++ raw) shared

lemma Progress.greeted (h : Progress prims o accepted v) (hstate : v.state = .waitEncryptedExtensions) :
    ∃ hello greeting transcript raw shared, Greeted prims o accepted v hello greeting transcript raw shared := by
  cases h with
  | serverHello hello raw shared resumed h hrandom hresumed hshared =>
    obtain ⟨-, hgreeting⟩ := h.greeting_of_waiting rfl
    exact ⟨hello, _, _, raw, shared, hgreeting, hrandom, hresumed, hshared, rfl, rfl, rfl⟩
  | ticket level message raw h hconnected => exact absurd (hstate.symm.trans hconnected) (by decide)
  | _ => cases hstate

lemma verifyCertificateVerify_ok {leaf transcriptHash : Bytes} {message : CertificateVerify}
    (h : prims.verifyCertificateVerify leaf message transcriptHash = .ok ⟨⟩) : ∃ certificate,
      prims.loadCertificate leaf = some certificate ∧
      prims.verifySignature certificate message.signature (certificateVerifyContext ++ transcriptHash) = true := by
  obtain ⟨certificate, hloaded, h⟩ := bind_eq_ok.1 h
  obtain ⟨kind, -, h⟩ := bind_eq_ok.1 h
  split_ifs at h with hfits hverified
  refine ⟨certificate, ?_, by simpa using hverified⟩
  simp only [Asymmetric.loadDer] at hloaded
  cases hload : prims.loadCertificate leaf with
  | none => simp [hload] at hloaded
  | some loaded =>
    simp only [hload, Except.ok.injEq] at hloaded
    rw [hloaded]

lemma Greeted.authenticated {greeting credentials : List Handled} {transcript raw shared : Bytes}
    (h : Greeted prims o accepted v hello greeting transcript raw shared) (extensions : EncryptedExtensions)
    (raw' : Bytes) (hcredentials : Credentials prims o (v.transcript ++ raw') v.resumed credentials)
    (finished : Finished) (raw'' : Bytes) (hfinished : finished.verifyData =
      finishedVerifyData prims.toHashing v.serverHsSecret
        (prims.sha256 (v.transcript ++ raw' ++ rawBytes credentials))) :
    Authenticated prims o v.sent (accepted ++ [(.handshake, .encryptedExtensions extensions, raw')] ++
      credentials ++
      [(.handshake, .finished finished, raw'')]) := by
  rw [h.ends] at hcredentials hfinished
  rw [h.secret] at hfinished
  rw [h.messages, List.append_assoc greeting, ← List.append_nil (_ ++ [(_, _, raw'')])]
  exact .intro hello extensions finished raw raw' raw'' shared [] h.begins h.random h.resumes h.agrees hcredentials
    hfinished

lemma Progress.authenticated (h : Progress prims o accepted v) (hstate : v.state = .connected) :
    Authenticated prims o v.sent accepted := by
  induction h with
  | ticket level message raw h hconnected ih => exact (ih hconnected).append _
  | finished message raw transcript h hverified ih =>
    cases h with
    | resumed extensions raw' h =>
      obtain ⟨hello, greeting, transcript', raw'', shared, hgreeted⟩ := h.greeted rfl
      have hauth := hgreeted.authenticated extensions raw' .psk message raw (by simpa [rawBytes] using hverified)
      rwa [List.append_nil] at hauth
    | certificateVerify verify raw' h hsigned =>
      cases h with
      | certificate certificate raw'' entry others h hentries hpolicy =>
        cases h with
        | encryptedExtensions extensions raw''' h =>
          obtain ⟨hello, greeting, transcript', _, shared, hgreeted⟩ := h.greeted rfl
          obtain ⟨loaded, hloaded, hsignature⟩ := verifyCertificateVerify_ok hsigned
          have hauth := hgreeted.authenticated extensions raw'''
            (.certificate certificate verify raw'' raw' entry others loaded hentries hpolicy hloaded hsignature)
              message
            raw (by simpa [rawBytes] using hverified)
          simpa using hauth
        | ticket level message raw h hconnected => cases hconnected
      | ticket level message raw h hconnected => cases hconnected
    | ticket level message raw h hconnected => cases hconnected
  | _ => cases hstate

end Stages

namespace TlsClient

variable (prims : Asymmetric)

def view (client : TlsClient) : ClientView :=
  ⟨hellos client.events, client.state, client.helloRetried, client.resumed, client.schedule.transcript,
    client.leafCertificate, client.serverHsSecret⟩

structure Follows (o : Opening) (accepted : List Handled) (client : TlsClient) : Prop where
  same : client.config = o.config
  retryKey : client.retryKey = o.retryKey
  progress : Progress prims o accepted client.view
  keys : client.state = .waitServerHello → client.keys = o.sharedKeys client.helloRetried
  early : client.state = .waitServerHello →
    client.schedule.secret = (KeySchedule.new prims.toHashing (o.config.sessionTicket.map (·.psk))).secret
  fallback : client.state = .waitServerHello → client.fallbackSchedule = o.config.sessionTicket.map fun _ =>
    (KeySchedule.new prims.toHashing none).updateTranscript client.schedule.transcript
  completed : completions client.events = if client.state = .connected then 1 else 0

section Steps

variable {prims} {o : Opening} {raw : Bytes} {accepted : List Handled} {client : TlsClient}

abbrev Reports (client client' : TlsClient) : Prop :=
  hellos client'.events = hellos client.events ∧ completions client'.events = completions client.events

lemma Follows.pending (h : Follows prims o accepted client) (hstate : client.state ≠ .connected) :
    completions client.events = 0 := by
  rw [h.completed, if_neg hstate]

lemma Follows.stage (h : Follows prims o accepted client) {state : ClientState}
    (hstate : client.state = state) : Progress prims o accepted ⟨hellos client.events, state, client.helloRetried,
      client.resumed, client.schedule.transcript, client.leafCertificate, client.serverHsSecret⟩ :=
        hstate ▸ h.progress

lemma Follows.retry (h : Follows prims o accepted client) (hstate : client.state = .waitServerHello)
    (hrandom : hello.random = helloRetryRequestRandom) :
    Ensures (onHelloRetryRequest prims hello raw) client
      (fun _ => Follows prims o (accepted ++ [(.initial, .serverHello hello, raw)]))
      fun _ => Reports client := by
  simp only [onHelloRetryRequest, ensures_flow]
  refine ⟨fun group hgroup => ?_, fun _ _ => ⟨rfl, rfl⟩⟩
  obtain ⟨hretried, rfl⟩ := retryGroup_ok hgroup
  obtain ⟨hresumed, hgreeting⟩ := h.progress.greeting_of_waiting hstate
  apply buildClientHello_spec.mono
  · rintro hello' _ ⟨offered, suite, rfl⟩
    refine ⟨fun encoded _ => ?_, fun _ _ => ⟨rfl, rfl⟩⟩
    apply (recordHello_spec prims.toHashing).mono
    · rintro sent _ rfl
      obtain ⟨hnone, hfirst⟩ := hgreeting.eq_first hretried
      refine ⟨h.same, h.retryKey, ?_, fun _ => ?_, fun _ => h.early hstate, ?_, ?_⟩
      · change Progress prims o _ ⟨hellos (client.events ++ [.sendData .initial sent]), .waitServerHello, true,
          client.resumed, messageHash prims client.schedule.transcript ++ raw ++ sent, client.leafCertificate,
          client.serverHsSecret⟩
        rw [hnone, show client.resumed = false from hresumed, hellos_append,
          show hellos client.events = [client.schedule.transcript] from hfirst]
        exact .greeting (.retried hello _ raw sent hrandom)
      · change [(x25519Group, client.retryKey)] = _
        rw [h.retryKey]
        rfl
      · intro _
        change (client.fallbackSchedule.map _).map _ = _
        rw [h.fallback hstate, Option.map_map, Option.map_map]
        rfl
      · simp [h.pending (by simp [hstate]), TlsEvent.completes]
    · intro _ _ hevents
      simp [Reports, hevents]
  · intro _ _ hevents
    simp [Reports, hevents]

lemma settleOffer_spec :
    Ensures (settleOffer hello) client (fun _ client' => client' = { client with
          resumed := client.resumed || (findExtension hello.extensions ExtensionType.preSharedKey).isSome
          schedule :=
            if (findExtension hello.extensions ExtensionType.preSharedKey).isSome then client.schedule
            else client.fallbackSchedule.getD client.schedule
          fallbackSchedule := none } ∧
        ((findExtension hello.extensions ExtensionType.preSharedKey).isSome = true ↔
          client.config.sessionTicket.isSome = true ∧
            (findExtension hello.extensions ExtensionType.preSharedKey).map fromBytes = some 0))
      fun _ => Reports client := by
  simp only [settleOffer, ensures_state]
  cases hselected : findExtension hello.extensions ExtensionType.preSharedKey with
  | none =>
    simp only [ensures_set]
    exact ⟨by simp, by simp⟩
  | some selected =>
    simp only [ensures_flow]
    refine ⟨fun _ => ⟨rfl, rfl⟩, fun hticket => ⟨fun _ => ⟨rfl, rfl⟩, fun hzero => ⟨by simp, ?_⟩⟩⟩
    simp only [Bool.not_eq_false] at hticket
    simp [hticket, not_not.1 hzero]

lemma readServerHello_agrees {agreed : Bytes × Bytes} {shared : Bytes}
    (h : client.readServerHello hello = .ok agreed) (hshared : prims.exchange agreed.1 agreed.2 = .ok shared) :
    Agrees prims client.keys hello shared := by
  simp only [readServerHello] at h
  split_ifs at h
  cases hentry : findExtension hello.extensions ExtensionType.keyShare with
  | none => simp [hentry] at h
  | some entry =>
    simp only [hentry] at h
    obtain ⟨⟨group, peerPublic⟩, hparsed, h⟩ := bind_eq_ok.1 h
    cases hkey : client.keys.lookup group with
    | none => simp [hkey] at h
    | some key =>
      simp only [hkey, Except.ok.injEq] at h
      subst h
      exact ⟨entry, group, key, peerPublic, hentry, hparsed, hkey, hshared⟩

lemma eq_updateTranscript {hashing : Hashing} {schedule : KeySchedule} {psk : Option Bytes}
    (h : schedule.secret = (KeySchedule.new hashing psk).secret) :
    schedule = (KeySchedule.new hashing psk).updateTranscript schedule.transcript := by
  cases schedule
  cases h
  rfl

lemma Follows.schedule (h : Follows prims o accepted client) (hstate : client.state = .waitServerHello)
    (resumed : Bool) : (if resumed then client.schedule else client.fallbackSchedule.getD client.schedule) =
      (KeySchedule.new prims.toHashing (o.psk resumed)).updateTranscript client.schedule.transcript := by
  have hearly := eq_updateTranscript (h.early hstate)
  rw [h.fallback hstate]
  cases hticket : o.config.sessionTicket with
  | none =>
    rw [hticket] at hearly
    cases resumed <;> simpa [Opening.psk, hticket] using hearly
  | some ticket =>
    rw [hticket] at hearly
    cases resumed with
    | false => simp [Opening.psk]
    | true => simpa [Opening.psk, hticket] using hearly

lemma Follows.greet (h : Follows prims o accepted client) (hstate : client.state = .waitServerHello)
    (hrandom : hello.random ≠ helloRetryRequestRandom) :
    Ensures (onServerHello prims hello raw) client
      (fun _ => Follows prims o (accepted ++ [(.initial, .serverHello hello, raw)]))
      fun _ => Reports client := by
  obtain ⟨hresumed, -⟩ := h.progress.greeting_of_waiting hstate
  simp only [onServerHello, if_neg hrandom, ensures_flow]
  refine ⟨fun _ => ⟨rfl, rfl⟩,
    fun _ => ⟨fun _ => ⟨rfl, rfl⟩, fun _ => ⟨fun agreed hagreed => ?_, fun _ _ => ⟨rfl, rfl⟩⟩⟩⟩
  apply settleOffer_spec.mono
  · rintro _ _ ⟨rfl, hresumes⟩
    simp only [updateTranscript, emitHandshakeSecrets, ensures_modify]
    refine ⟨fun shared hshared => ?_, fun _ _ => ⟨rfl, rfl⟩⟩
    refine ⟨h.same, h.retryKey, ?_, fun hwaits => ClientState.noConfusion hwaits,
      fun hwaits => ClientState.noConfusion hwaits, fun hwaits => ClientState.noConfusion hwaits, ?_⟩
    · have hstage := h.stage hstate
      rw [show client.resumed = false from hresumed] at hstage
      have htaken : (findExtension hello.extensions ExtensionType.preSharedKey).isSome = true ↔
        o.Resumes hello := by
        rw [Opening.Resumes, ← h.same]
        exact hresumes
      simp only [view, hellos_append, h.schedule hstate, show client.resumed = false from hresumed, Bool.false_or]
      rw [show hellos (prims.handshakeSecrets _ _ _).2.2.2 = [] from rfl, List.append_nil]
      exact .serverHello hello raw shared _ hstage hrandom htaken
        (h.keys hstate ▸ readServerHello_agrees hagreed hshared)
    · simp [Asymmetric.handshakeSecrets, h.pending (by simp [hstate]), TlsEvent.completes]
  · exact fun _ _ hreports => hreports

lemma Follows.extend (h : Follows prims o accepted client) (hstate : client.state = .waitEncryptedExtensions)
    (message : EncryptedExtensions) :
    Ensures (onEncryptedExtensions message raw) client
      (fun _ => Follows prims o (accepted ++ [(.handshake, .encryptedExtensions message, raw)]))
      fun _ => Reports client := by
  simp only [onEncryptedExtensions, ensures_flow]
  refine ⟨fun selected _ => ?_, fun _ _ => ⟨rfl, rfl⟩⟩
  cases findExtension message.extensions ExtensionType.quicTransportParameters with
  | none => exact ⟨rfl, rfl⟩
  | some parameters =>
    simp only [ensures_flow]
    refine ⟨fun accepted _ => ?_, fun _ _ => ⟨rfl, rfl⟩⟩
    have hstage := h.stage hstate
    have hpending := h.pending (by simp [hstate])
    have hgone : (if client.resumed then ClientState.waitFinished else .waitCertificate) ≠ .waitServerHello := by
      split_ifs <;> decide
    refine ⟨h.same, h.retryKey, ?_, fun hwaits => absurd hwaits hgone, fun hwaits => absurd hwaits hgone,
      fun hwaits => absurd hwaits hgone, ?_⟩
    · change Progress prims o _ ⟨hellos client.events, if client.resumed then .waitFinished else .waitCertificate,
        client.helloRetried, client.resumed, client.schedule.transcript ++ raw, client.leafCertificate,
        client.serverHsSecret⟩
      cases hresumed : client.resumed with
      | false => exact .encryptedExtensions message raw (hresumed ▸ hstage)
      | true => exact .resumed message raw (hresumed ▸ hstage)
    · cases hresumed : client.resumed <;> simp [hpending]

lemma Follows.certify (h : Follows prims o accepted client) (hstate : client.state = .waitCertificate)
    (message : Certificate) :
    Ensures (onCertificate prims message raw) client
      (fun _ => Follows prims o (accepted ++ [(.handshake, .certificate message, raw)]))
      fun _ => Reports client := by
  simp only [onCertificate]
  cases hentries : message.entries with
  | nil => exact ⟨rfl, rfl⟩
  | cons leaf others =>
    simp only [ensures_flow, updateTranscript]
    have hpending := h.pending (by simp [hstate])
    have hdone : (client.config.insecureSkipVerify = false →
        verifyCertificatePolicy prims client.config leaf others = .ok ⟨⟩) →
        Follows prims o (accepted ++ [(.handshake, .certificate message, raw)]) { client with
          leafCertificate := leaf.data
          schedule := client.schedule.updateTranscript raw
          state := .waitCertificateVerify } := by
      intro hpolicy
      refine ⟨h.same, h.retryKey, ?_, fun hwaits => ClientState.noConfusion hwaits,
        fun hwaits => ClientState.noConfusion hwaits, fun hwaits => ClientState.noConfusion hwaits, by
          simpa using hpending⟩
      exact .certificate message raw leaf others (h.stage hstate) hentries (h.same ▸ hpolicy)
    refine ⟨fun hverify => ⟨fun _ hpolicy => hdone fun _ => hpolicy, fun _ _ => ⟨rfl, rfl⟩⟩, fun hskip => ?_⟩
    exact hdone fun hverify => absurd hverify hskip

lemma Follows.verify (h : Follows prims o accepted client) (hstate : client.state = .waitCertificateVerify)
    (message : CertificateVerify) :
    Ensures (onCertificateVerify prims message raw) client
      (fun _ => Follows prims o (accepted ++ [(.handshake, .certificateVerify message, raw)]))
      fun _ => Reports client := by
  simp only [onCertificateVerify, ensures_flow, updateTranscript]
  refine ⟨fun _ hverified => ?_, fun _ _ => ⟨rfl, rfl⟩⟩
  have hpending := h.pending (by simp [hstate])
  refine ⟨h.same, h.retryKey, ?_, fun hwaits => ClientState.noConfusion hwaits,
        fun hwaits => ClientState.noConfusion hwaits, fun hwaits => ClientState.noConfusion hwaits, by
          simpa using hpending⟩
  exact .certificateVerify message raw (h.stage hstate) hverified

lemma Follows.finish (h : Follows prims o accepted client) (hstate : client.state = .waitFinished)
    (message : Finished) :
    Ensures (onFinished prims message raw) client
      (fun _ => Follows prims o (accepted ++ [(.handshake, .finished message, raw)]))
      fun _ => Reports client := by
  simp only [onFinished, ensures_flow, updateTranscript, emitApplicationSecrets]
  refine ⟨fun _ => ⟨rfl, rfl⟩, fun hverified => ⟨fun finished _ => ?_, fun _ _ => ?_⟩⟩
  · have hpending := h.pending (by simp [hstate])
    refine ⟨h.same, h.retryKey, ?_, fun hwaits => ClientState.noConfusion hwaits,
      fun hwaits => ClientState.noConfusion hwaits, fun hwaits => ClientState.noConfusion hwaits, ?_⟩
    · have hsent : ∀ events, hellos events = [] → hellos (client.events ++ events) = hellos client.events := by
        intro events hnone
        rw [hellos_append, hnone, List.append_nil]
      simp only [view, List.append_assoc]
      rw [hsent _ rfl]
      exact .finished message raw _ (h.stage hstate) (not_not.1 hverified)
    · simp [Asymmetric.applicationSecrets, hpending, TlsEvent.completes]
  · simp [Reports, Asymmetric.applicationSecrets, hellos, TlsEvent.hello, TlsEvent.completes]

lemma Follows.store (h : Follows prims o accepted client) (hstate : client.state = .connected)
    (level : Level) (message : NewSessionTicket) :
    Ensures (storeSessionTicket prims.toHashing message) client
      (fun _ => Follows prims o (accepted ++ [(level, .newSessionTicket message, raw)]))
      fun _ => Reports client := by
  simp only [storeSessionTicket, ensures_flow]
  refine ⟨fun _ => ⟨rfl, rfl⟩, fun _ => ?_⟩
  exact ⟨h.same, h.retryKey, .ticket level message raw h.progress hstate, h.keys, h.early, h.fallback, h.completed⟩

lemma Follows.handle (h : Follows prims o accepted client) (now : ℚ) (level : Level) (message : HandshakeMessage) :
    Ensures (TlsClient.handle prims now level message raw) client
      (fun _ => Follows prims o (accepted ++ [(level, message, raw)])) fun _ => Reports client := by
  simp only [TlsClient.handle, ensures_flow]
  have hnow : Follows prims o accepted { client with now := now } :=
    ⟨h.same, h.retryKey, h.progress, h.keys, h.early, h.fallback, h.completed⟩
  refine ⟨fun hconnected => ?_,
    fun hstate => ⟨fun expects hexpects => ⟨fun _ hrequired => ?_, fun _ _ => ⟨rfl, rfl⟩⟩, fun _ _ => ⟨rfl, rfl⟩⟩⟩
  · cases message with
    | newSessionTicket ticket => exact hnow.store hconnected level ticket
    | _ => exact ⟨rfl, rfl⟩
  · rw [requireMessage_ok hrequired] at hexpects
    obtain ⟨state, hs⟩ : ∃ state, client.state = state := ⟨_, rfl⟩
    have hwaits : clientExpects state = .ok (message.messageType, level) := hs ▸ hexpects
    cases state with
    | start => cases hwaits
    | connected => cases hwaits
    | waitServerHello =>
      cases message with
      | serverHello hello =>
        cases hwaits
        by_cases hrandom : hello.random = helloRetryRequestRandom
        · simp only [onServerHello, if_pos hrandom]
          exact hnow.retry hs hrandom
        · exact hnow.greet hs hrandom
      | _ => cases hwaits
    | waitEncryptedExtensions =>
      cases message with
      | encryptedExtensions message =>
        cases hwaits
        exact hnow.extend hs message
      | _ => cases hwaits
    | waitCertificate =>
      cases message with
      | certificate message =>
        cases hwaits
        exact hnow.certify hs message
      | _ => cases hwaits
    | waitCertificateVerify =>
      cases message with
      | certificateVerify message =>
        cases hwaits
        exact hnow.verify hs message
      | _ => cases hwaits
    | waitFinished =>
      cases message with
      | finished message =>
        cases hwaits
        exact hnow.finish hs message
      | _ => cases hwaits

end Steps

section Run

variable {prims} {o : Opening} {h : Handshake TlsClient}

lemma start_follows (config : ClientConfig) (random : Bytes) (keys : List (ℕ × Bytes))
    (retryKey : Bytes) (began : ℚ) :
    Ensures (start prims.toHashing began) (.new prims config random keys retryKey)
      fun _ => Follows prims ⟨config, keys, retryKey⟩ [] := by
  simp only [start, ensures_state]
  apply buildClientHello_spec.imp_true
  rintro hello _ ⟨offered, suite, rfl⟩
  rw [ensures_lift]
  refine ⟨fun encoded _ => ?_, fun _ _ => trivial⟩
  apply (recordHello_spec prims.toHashing).imp_true
  rintro sent _ rfl
  refine ⟨rfl, rfl, .greeting (.once sent), fun _ => rfl, fun _ => rfl, fun _ => ?_, rfl⟩
  change (config.sessionTicket.map _).map _ = _
  rw [Option.map_map]
  rfl

def Stopped (prims : Asymmetric) (o : Opening) (handled : List Handled) (client : TlsClient) : Prop :=
  ∃ accepted before, Follows prims o accepted before ∧ accepted <+: handled ∧ Reports before client

lemma receive_follows (hfollows : Follows prims o h.handled h.role) (level : Level) (data : Bytes) (now : ℚ) :
    Ensures (Handshake.receive (TlsClient.handle prims) level data now) h
      (fun _ h' => Follows prims o h'.handled h'.role) fun _ h' => Stopped prims o h'.handled h'.role := by
  have hstep : ∀ raw (s : List Handled × TlsClient), Follows prims o s.1 s.2 →
      Ensures (Handshake.handleRaw (TlsClient.handle prims) now level raw) s
        (fun _ s' => Follows prims o s'.1 s'.2) fun _ s' => Stopped prims o s'.1 s'.2 := by
    intro raw s hs
    simp only [Handshake.handleRaw, ensures_flow]
    refine ⟨fun parsed _ => ?_, fun _ _ => ⟨s.1, s.2, hs, List.prefix_rfl, rfl, rfl⟩⟩
    apply (hs.handle now level parsed.1).mono
    · exact fun _ _ h => h
    · exact fun _ _ hreports => ⟨s.1, s.2, hs, List.prefix_append _ _, hreports⟩
  rw [Handshake.receive_eq, ensures_zoom]
  exact Framing.ensures_feed (I := fun s : List Handled × TlsClient => Follows prims o s.1 s.2) data hfollows
    fun raw _ => hstep raw

def receiveAll (prims : Asymmetric) (calls : List (Level × Bytes × ℚ)) :
    EStateM Raised (Handshake TlsClient) PUnit :=
  each (fun call => Handshake.receive (TlsClient.handle prims) call.1 call.2.1 call.2.2) calls

lemma receiveAll_follows (hfollows : Follows prims o h.handled h.role) (calls : List (Level × Bytes × ℚ)) :
    Stopped prims o (finalState (receiveAll prims calls) h).handled
      (finalState (receiveAll prims calls) h).role := by
  have hloop := ensures_each (I := fun _ (h : Handshake TlsClient) => Follows prims o h.handled h.role)
    (fun call _ h hh => receive_follows hh call.1 call.2.1 call.2.2) calls h hfollows
  apply Ensures.final (P := fun h : Handshake TlsClient => Stopped prims o h.handled h.role)
  apply hloop.mono
  · exact fun _ h hh => ⟨h.handled, h.role, hh, List.prefix_rfl, rfl, rfl⟩
  · exact fun _ _ hh => hh

end Run

end TlsClient

lemma completions_pos {events : List TlsEvent} {alpn parameters : Bytes}
    (h : .handshakeComplete alpn parameters ∈ events) : completions events ≠ 0 := by
  rw [completions, ← Nat.pos_iff_ne_zero, List.countP_pos_iff]
  exact ⟨_, h, rfl⟩

theorem completion_authenticated (prims : Asymmetric) (config : ClientConfig) (random : Bytes)
    (keys : List (ℕ × Bytes)) (retryKey : Bytes) (began : ℚ) (client : TlsClient)
    (h : TlsClient.start prims.toHashing began (.new prims config random keys retryKey) = .ok ⟨⟩ client)
    (calls : List (Level × Bytes × ℚ)) (alpn parameters : Bytes) (hcomplete : .handshakeComplete alpn parameters ∈
      (finalState (TlsClient.receiveAll prims calls) (.new client)).role.events) :
    completions (finalState (TlsClient.receiveAll prims calls) (.new client)).role.events = 1 ∧
      Authenticated prims ⟨config, keys, retryKey⟩
        (hellos (finalState (TlsClient.receiveAll prims calls) (.new client)).role.events)
        (finalState (TlsClient.receiveAll prims calls) (.new client)).handled := by
  have hfollows : TlsClient.Follows prims _ (Handshake.new client).handled (Handshake.new client).role :=
    (TlsClient.start_follows config random keys retryKey began).of_ok h
  obtain ⟨accepted, before, hbefore, ⟨later, hlater⟩, hsent, hreports⟩ :=
    TlsClient.receiveAll_follows hfollows calls
  have hcompleted := hbefore.completed
  rw [← hreports] at hcompleted
  have hconnected : before.state = .connected := by
    by_contra hstate
    rw [if_neg hstate] at hcompleted
    exact completions_pos hcomplete hcompleted
  rw [if_pos hconnected] at hcompleted
  refine ⟨hcompleted, ?_⟩
  rw [← hlater, hsent]
  exact (hbefore.progress.authenticated hconnected).append later

def bareStarted : TlsClient := finalState (TlsClient.start bareAsymmetric.toHashing 0) bareClient

def bareAnswer : List (Level × Bytes × ℚ) :=
  let server : TlsServer := .new bareAsymmetric none [] [[7]] [] [ascii "h3"] (List.replicate 32 3) bareKey
  let run := each (fun hello => Handshake.receive (TlsServer.handle bareAsymmetric ⟨[], [], []⟩) .initial hello 0)
    (hellos bareStarted.events)
  (finalState run (.new server)).role.events.filterMap fun
    | .sendData level data => some (level, data, 0)
    | _ => none

set_option maxRecDepth 100000 in
theorem completion_authenticated_full :
    .handshakeComplete (ascii "h3") [] ∈
        (finalState (TlsClient.receiveAll bareAsymmetric bareAnswer) (.new bareStarted)).role.events ∧
      Authenticated bareAsymmetric ⟨bareConfig, [(x25519Group, bareKey)], bareKey⟩
        (hellos (finalState (TlsClient.receiveAll bareAsymmetric bareAnswer) (.new bareStarted)).role.events)
        (finalState (TlsClient.receiveAll bareAsymmetric bareAnswer) (.new bareStarted)).handled := by
  have hcomplete : .handshakeComplete (ascii "h3") [] ∈
      (finalState (TlsClient.receiveAll bareAsymmetric bareAnswer) (.new bareStarted)).role.events := by
        decide +kernel
  have hstarted : TlsClient.start bareAsymmetric.toHashing 0 bareClient = .ok ⟨⟩ bareStarted := rfl
  exact ⟨hcomplete,
    (completion_authenticated bareAsymmetric bareConfig (List.replicate 32 2) [(x25519Group, bareKey)]
    bareKey 0 bareStarted hstarted bareAnswer _ _ hcomplete).2⟩

end Dsquic.Tls
