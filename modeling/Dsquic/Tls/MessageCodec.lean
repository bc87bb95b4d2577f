import Dsquic.Tls.Messages
import Dsquic.Wire.Retraces

/-!
The handshake messages and their encodings are in bijection.
-/

namespace Dsquic.Tls

open Lib Wire Buffer

section Vectors

variable {α : Type} {item : Parser α} {encode : α → Except Raised Bytes} {width : ℕ} {items : List α}

lemma retraces_pullVec (width : ℕ) : (pullVec width).Retraces fun data encoded => vec width data =
    .ok encoded := by
  apply (retraces_pullUint width).bind
  intro length header hheader
  apply (Parser.retraces_pullBytes length).mono
  rintro _ data ⟨rfl, rfl⟩
  exact concatEncoded_cons_ok.2 ⟨header, _, hheader, concatEncoded_singleton _, rfl⟩

lemma decodes_pullVec {data : Bytes} (h : data.length < 256 ^ width) (rest : Bytes) :
    (pullVec width).Decodes (vec width data) rest data :=
  .bind (decodes_pullUint h) (decodes_pullBytes rfl rest)

lemma ensures_pullWhile (hitem : item.Retraces fun a data => encode a = .ok data) (rounds : ℕ) (b : Buffer) :
    Ensures (pullWhile item rounds) b fun items _ => concatEncoded (items.map encode) = .ok b.rest := by
  have hnone : ∀ b : Buffer, b.isEmpty = true → concatEncoded (([] : List α).map encode) = .ok b.rest :=
    fun b hempty => congrArg Except.ok (List.isEmpty_iff.1 hempty).symm
  induction rounds generalizing b with
  | zero =>
    simp only [pullWhile, ensures_flow, implies_true, true_and]
    exact fun hempty => hnone b (by simpa using hempty)
  | succ rounds ih =>
    simp only [pullWhile, ensures_flow]
    refine ⟨hnone b, fun _ => ?_⟩
    apply (hitem b).imp_true
    rintro first b' ⟨data, hdata, -, hfirst⟩
    apply (ih b').imp_true
    exact fun others _ hothers => concatEncoded_cons_ok.2 ⟨data, b'.rest, hfirst, hothers, hdata⟩

lemma retraces_pullVecOf (hitem : item.Retraces fun a data => encode a = .ok data) :
    (pullVecOf width item).Retraces fun items encoded => vecOf width encode items = .ok encoded := by
  apply (retraces_pullVec width).bind
  intro block encoded hblock
  apply Parser.Retraces.lift
  intro items hitems
  have hbody := Parser.of_run_eq_ok (ensures_pullWhile hitem block.length ⟨block, 0⟩) hitems
  rw [List.append_nil]
  exact bind_eq_ok.2 ⟨block, hbody, hblock⟩

lemma reads_pullWhile (hitem : ∀ a ∈ items, ∀ rest, item.Decodes (encode a) rest a)
    (hpos : ∀ a data, encode a = .ok data → data ≠ []) {rounds : ℕ} {block : Bytes}
    (hblock : concatEncoded (items.map encode) = .ok block) (hrounds : block.length ≤ rounds) :
    (pullWhile item rounds).Reads block [] items := by
  induction items generalizing rounds block with
  | nil =>
    cases hblock
    intro position
    cases rounds with
    | zero =>
      simp only [pullWhile, ensures_bind, ensures_get, ensures_raiseIf]
      exact ⟨by rintro ⟨⟩, fun _ => ⟨rfl, rfl⟩⟩
    | succ rounds => simp [pullWhile, Buffer.isEmpty]
  | cons a items ih =>
    obtain ⟨data, others, hdata, hothers, rfl⟩ := concatEncoded_cons_ok.1 hblock
    have hdatapos := List.length_pos_iff.2 (hpos a data hdata)
    rw [List.length_append] at hrounds
    obtain ⟨rounds, rfl⟩ : ∃ fewer, rounds = fewer + 1 := ⟨rounds - 1, by omega⟩
    obtain ⟨_, hsame, hreads⟩ := hitem a List.mem_cons_self (others ++ [])
    cases hdata.symm.trans hsame
    have hrest :=
      ih (fun a ha => hitem a (List.mem_cons_of_mem _ ha)) hothers (show others.length ≤ rounds by omega)
    have hfull : ∀ position, (⟨data ++ others ++ [], position⟩ : Buffer).isEmpty = false := by
      intro position
      cases data with
      | nil => cases hdatapos
      | cons byte data => rfl
    intro position
    simp only [pullWhile, ensures_state, hfull, Bool.false_eq_true, if_false]
    rw [List.append_assoc]
    refine hreads.ensures (hrest.ensures ⟨rfl, ?_⟩)
    rw [List.length_append, Nat.add_assoc]

def Within (width : ℕ) : Except Raised Bytes → Prop
  | .ok data => data.length < 256 ^ width
  | .error _ => True

instance (width : ℕ) : (encoded : Except Raised Bytes) → Decidable (Within width encoded)
  | .ok data => inferInstanceAs (Decidable (data.length < 256 ^ width))
  | .error _ => isTrue trivial

lemma decodes_pullVecOf (hitem : ∀ a ∈ items, ∀ rest, item.Decodes (encode a) rest a)
    (hpos : ∀ a data, encode a = .ok data → data ≠ []) (hwithin : Within width (concatEncoded (items.map encode)))
    (rest : Bytes) : (pullVecOf width item).Decodes (vecOf width encode items) rest items := by
  obtain ⟨block, hblock⟩ : ∃ block, concatEncoded (items.map encode) = .ok block := by
    refine concatEncoded_isOk fun part hmem => ?_
    obtain ⟨a, ha, rfl⟩ := List.mem_map.1 hmem
    obtain ⟨data, hdata, -⟩ := hitem a ha []
    exact ⟨data, hdata⟩
  rw [hblock] at hwithin
  obtain ⟨data, hdata, hreads⟩ := decodes_pullVec hwithin ([] ++ rest)
  refine ⟨data, bind_eq_ok.2 ⟨block, hblock, hdata⟩, ?_⟩
  rw [← List.append_nil data]
  refine hreads.bind ?_
  rw [(reads_pullWhile hitem hpos hblock (le_refl _)).run_eq_ok]
  exact .pure items rest

end Vectors

section Fields

structure Extension.Fits (ext : Extension) : Prop where
  type : ext.type < 256 ^ 2
  data : ext.data.length < 256 ^ 2

structure ExtensionsFit (extensions : List Extension) : Prop where
  each : ∀ ext ∈ extensions, ext.Fits
  block : Within 2 (concatEncoded (extensions.map encodeExtension))

structure ClientHello.Fits (hello : ClientHello) : Prop where
  random : hello.random.length = 32
  legacySessionId : hello.legacySessionId.length < 256 ^ 1
  cipherSuites : ∀ suite ∈ hello.cipherSuites, suite < 256 ^ 2
  suitesBlock : Within 2 (concatEncoded (hello.cipherSuites.map (intToBytes · 2)))
  extensions : ExtensionsFit hello.extensions

structure ServerHello.Fits (hello : ServerHello) : Prop where
  random : hello.random.length = 32
  legacySessionIdEcho : hello.legacySessionIdEcho.length < 256 ^ 1
  cipherSuite : hello.cipherSuite < 256 ^ 2
  extensions : ExtensionsFit hello.extensions

structure CertificateEntry.Fits (entry : CertificateEntry) : Prop where
  data : entry.data.length < 256 ^ 3
  extensions : ExtensionsFit entry.extensions

structure Certificate.Fits (message : Certificate) : Prop where
  requestContext : message.requestContext.length < 256 ^ 1
  entries : ∀ entry ∈ message.entries, entry.Fits
  entriesBlock : Within 3 (concatEncoded (message.entries.map encodeCertificateEntry))

structure CertificateVerify.Fits (message : CertificateVerify) : Prop where
  algorithm : message.algorithm < 256 ^ 2
  signature : message.signature.length < 256 ^ 2

structure NewSessionTicket.Fits (message : NewSessionTicket) : Prop where
  lifetime : message.lifetime < 256 ^ 4
  ageAdd : message.ageAdd < 256 ^ 4
  nonce : message.nonce.length < 256 ^ 1
  ticket : message.ticket.length < 256 ^ 2
  extensions : ExtensionsFit message.extensions

namespace HandshakeMessage

def body : HandshakeMessage → Except Raised Bytes
  | clientHello hello => clientHelloBody hello
  | serverHello hello => serverHelloBody hello
  | encryptedExtensions message => encodeExtensions message.extensions
  | certificate message => certificateBody message
  | certificateVerify message => certificateVerifyBody message
  | finished message => .ok message.verifyData
  | newSessionTicket message => newSessionTicketBody message

lemma encode_eq (message : HandshakeMessage) :
    message.encode = handshakeMessage message.messageType message.body := by
  cases message <;> rfl

def FieldsFit : HandshakeMessage → Prop
  | clientHello hello => hello.Fits
  | serverHello hello => hello.Fits
  | encryptedExtensions message => ExtensionsFit message.extensions
  | certificate message => message.Fits
  | certificateVerify message => message.Fits
  | finished _ => True
  | newSessionTicket message => message.Fits

structure Fits (message : HandshakeMessage) : Prop where
  fields : message.FieldsFit
  body : Within 3 message.body

end HandshakeMessage

end Fields

variable {message : HandshakeMessage}

section Decoding

lemma intToBytes_ne_nil {value : ℕ} (data : Bytes) (h : intToBytes value 2 = .ok data) : data ≠ [] := by
  rintro rfl
  exact absurd (length_intToBytes h) (by simp)

lemma vec_ne_nil {width : ℕ} (hwidth : 0 < width) {content data : Bytes} (h : vec width content = .ok data) :
    data ≠ [] := by
  obtain ⟨header, others, hheader, -, rfl⟩ := concatEncoded_cons_ok.1 h
  rintro hnil
  have hlength := length_intToBytes hheader
  rw [(List.append_eq_nil_iff.1 hnil).1, List.length_nil] at hlength
  omega

lemma decodes_pullExtension {ext : Extension} (h : ext.Fits) (rest : Bytes) :
    pullExtension.Decodes (encodeExtension ext) rest ext :=
  .bind (decodes_pullUint h.type) (.bind (decodes_pullVec h.data) (.pure ext rest))

lemma decodes_parseExtensions {extensions : List Extension} (h : ExtensionsFit extensions) (rest : Bytes) :
    parseExtensions.Decodes (encodeExtensions extensions) rest extensions := by
  refine decodes_pullVecOf (fun ext hext => decodes_pullExtension (h.each ext hext))
    (fun ext data hdata => ?_) h.block rest
  obtain ⟨type, others, htype, -, rfl⟩ := concatEncoded_cons_ok.1 hdata
  simp [intToBytes_ne_nil type htype]

lemma decodes_parseClientHello {hello : ClientHello} (h : hello.Fits) (rest : Bytes) :
    parseClientHello.Decodes (clientHelloBody hello) rest hello :=
  .bind (decodes_pullUint (by decide)) (.raiseIf_bind (by simp)
    (.bind (decodes_bytes h.random) (.bind (decodes_pullVec h.legacySessionId)
      (.bind (decodes_pullVecOf (fun suite hsuite => decodes_pullUint (h.cipherSuites suite hsuite))
        (fun _ => intToBytes_ne_nil) h.suitesBlock)
      (.bind (decodes_pullVec (by decide)) (.raiseIf_bind (by simp)
        (.bind (decodes_parseExtensions h.extensions) (.pure hello rest))))))))

lemma decodes_parseServerHello {hello : ServerHello} (h : hello.Fits) (rest : Bytes) :
    parseServerHello.Decodes (serverHelloBody hello) rest hello :=
  .bind (decodes_pullUint (by decide)) (.raiseIf_bind (by simp)
    (.bind (decodes_bytes h.random) (.bind (decodes_pullVec h.legacySessionIdEcho)
      (.bind (decodes_pullUint h.cipherSuite) (.bind (fun rest => ⟨_, rfl, reads_pullUint8 0 rest⟩)
        (.raiseIf_bind (by simp) (.bind (decodes_parseExtensions h.extensions) (.pure hello rest))))))))

lemma decodes_parseCertificate {message : Certificate} (h : message.Fits) (rest : Bytes) :
    parseCertificate.Decodes (certificateBody message) rest message := by
  have hentry : ∀ entry ∈ message.entries, ∀ rest,
      pullCertificateEntry.Decodes (encodeCertificateEntry entry) rest entry :=
    fun entry hentry rest => .bind (decodes_pullVec (h.entries entry hentry).data)
      (.bind (decodes_parseExtensions (h.entries entry hentry).extensions) (.pure entry rest))
  have hpos : ∀ entry data, encodeCertificateEntry entry = .ok data → data ≠ [] := by
    intro entry data hdata
    obtain ⟨first, others, hfirst, -, rfl⟩ := concatEncoded_cons_ok.1 hdata
    simp [vec_ne_nil (by decide) hfirst]
  exact .bind (decodes_pullVec h.requestContext)
    (.bind (decodes_pullVecOf hentry hpos h.entriesBlock) (.pure message rest))

lemma decodes_parseCertificateVerify {message : CertificateVerify} (h : message.Fits) (rest : Bytes) :
    parseCertificateVerify.Decodes (certificateVerifyBody message) rest message :=
  .bind (decodes_pullUint h.algorithm) (.bind (decodes_pullVec h.signature) (.pure message rest))

lemma decodes_parseNewSessionTicket {message : NewSessionTicket} (h : message.Fits) (rest : Bytes) :
    parseNewSessionTicket.Decodes (newSessionTicketBody message) rest message :=
  .bind (decodes_pullUint h.lifetime) (.bind (decodes_pullUint h.ageAdd) (.bind (decodes_pullVec h.nonce)
    (.bind (decodes_pullVec h.ticket) (.bind (decodes_parseExtensions h.extensions) (.pure message rest)))))

lemma reads_parseFinished (message : Finished) : parseFinished.Reads message.verifyData [] message := by
  intro position
  simp only [parseFinished, ensures_state, List.append_nil, Buffer.remaining]
  have hread := reads_pullBytes message.verifyData [] position
  rw [List.append_nil] at hread
  exact hread.mono (fun _ _ h => ⟨by rw [h.1], h.2⟩) fun _ _ hfalse => hfalse

lemma decodes_parseBody (h : message.FieldsFit) :
    (parseBody message.messageType).Decodes message.body [] message := by
  cases message with
  | clientHello hello => exact (decodes_parseClientHello h []).map _
  | serverHello hello => exact (decodes_parseServerHello h []).map _
  | encryptedExtensions message => exact (decodes_parseExtensions h []).map _
  | certificate message => exact (decodes_parseCertificate h []).map _
  | certificateVerify message => exact (decodes_parseCertificateVerify h []).map _
  | finished message => exact ⟨message.verifyData, rfl, (reads_parseFinished message).map _⟩
  | newSessionTicket message => exact (decodes_parseNewSessionTicket h []).map _

end Decoding

section Retracing

lemma concatEncoded_step {part : Except Raised Bytes} {parts : List (Except Raised Bytes)} {first data : Bytes}
    (hfirst : part = .ok first) (h : concatEncoded parts = .ok data) :
    concatEncoded (part :: parts) = .ok (first ++ data) := concatEncoded_cons_ok.2 ⟨first, data, hfirst, h, rfl⟩

lemma retraces_pullExtension : pullExtension.Retraces fun ext data => encodeExtension ext = .ok data := by
  refine (retraces_pullUint 2).bind fun type first hfirst => ?_
  refine (retraces_pullVec 2).bind fun content second hsecond => .pure ?_
  exact concatEncoded_step hfirst (concatEncoded_step hsecond rfl)

lemma retraces_parseExtensions :
    parseExtensions.Retraces fun extensions data => encodeExtensions extensions = .ok data :=
  retraces_pullVecOf retraces_pullExtension

lemma retraces_parseClientHello : parseClientHello.Retraces fun hello data => clientHelloBody hello =
    .ok data := by
  refine (retraces_pullUint 2).bind fun version first hversion => .raiseIf_bind fun hlegacy => ?_
  refine (Parser.retraces_pullBytes 32).bind fun random second hrandom => ?_
  refine (retraces_pullVec 1).bind fun sessionId third hsession => ?_
  refine (retraces_pullVecOf (retraces_pullUint 2)).bind fun suites fourth hsuites => ?_
  refine (retraces_pullVec 1).bind fun methods fifth hmethods => .raiseIf_bind fun hnull => ?_
  refine retraces_parseExtensions.bind fun extensions sixth hextensions => .pure ?_
  rw [not_not.1 hlegacy] at hversion
  rw [not_not.1 hnull] at hmethods
  exact concatEncoded_step hversion (concatEncoded_step (congrArg Except.ok hrandom.1) (concatEncoded_step hsession
    (concatEncoded_step hsuites (concatEncoded_step hmethods (concatEncoded_step hextensions rfl)))))

lemma retraces_parseServerHello : parseServerHello.Retraces fun hello data => serverHelloBody hello =
    .ok data := by
  refine (retraces_pullUint 2).bind fun version first hversion => .raiseIf_bind fun hlegacy => ?_
  refine (Parser.retraces_pullBytes 32).bind fun random second hrandom => ?_
  refine (retraces_pullVec 1).bind fun sessionId third hsession => ?_
  refine (retraces_pullUint 2).bind fun suite fourth hsuite => ?_
  refine Parser.retraces_pullUint8.bind fun method fifth hmethod => .raiseIf_bind fun hnull => ?_
  refine retraces_parseExtensions.bind fun extensions sixth hextensions => .pure ?_
  rw [not_not.1 hlegacy] at hversion
  rw [not_not.1 hnull] at hmethod
  exact concatEncoded_step hversion (concatEncoded_step (congrArg Except.ok hrandom.1) (concatEncoded_step hsession
    (concatEncoded_step hsuite (concatEncoded_step (congrArg Except.ok hmethod.symm)
      (concatEncoded_step hextensions rfl)))))

lemma retraces_pullCertificateEntry :
    pullCertificateEntry.Retraces fun entry data => encodeCertificateEntry entry = .ok data := by
  refine (retraces_pullVec 3).bind fun content first hfirst => ?_
  refine retraces_parseExtensions.bind fun extensions second hsecond => .pure ?_
  exact concatEncoded_step hfirst (concatEncoded_step hsecond rfl)

lemma retraces_parseCertificate : parseCertificate.Retraces fun message data => certificateBody message =
    .ok data := by
  refine (retraces_pullVec 1).bind fun context first hfirst => ?_
  refine (retraces_pullVecOf retraces_pullCertificateEntry).bind fun entries second hsecond => .pure ?_
  exact concatEncoded_step hfirst (concatEncoded_step hsecond rfl)

lemma retraces_parseCertificateVerify :
    parseCertificateVerify.Retraces fun message data => certificateVerifyBody message = .ok data := by
  refine (retraces_pullUint 2).bind fun algorithm first hfirst => ?_
  refine (retraces_pullVec 2).bind fun signature second hsecond => .pure ?_
  exact concatEncoded_step hfirst (concatEncoded_step hsecond rfl)

lemma retraces_parseNewSessionTicket :
    parseNewSessionTicket.Retraces fun message data => newSessionTicketBody message = .ok data := by
  refine (retraces_pullUint 4).bind fun lifetime first hfirst => ?_
  refine (retraces_pullUint 4).bind fun ageAdd second hsecond => ?_
  refine (retraces_pullVec 1).bind fun nonce third hthird => ?_
  refine (retraces_pullVec 2).bind fun ticket fourth hfourth => ?_
  refine retraces_parseExtensions.bind fun extensions fifth hfifth => .pure ?_
  exact concatEncoded_step hfirst (concatEncoded_step hsecond (concatEncoded_step hthird
    (concatEncoded_step hfourth (concatEncoded_step hfifth rfl))))

lemma retraces_parseFinished : parseFinished.Retraces fun message data => message.verifyData = data := by
  intro b
  simp only [parseFinished, ensures_state]
  exact ((Parser.retraces_pullBytes b.remaining).mono fun _ _ h => h.1) b

lemma retraces_parseBody (messageType : HandshakeType) :
    (parseBody messageType).Retraces fun message data =>
      message.messageType = messageType ∧ message.body = .ok data := by
  cases messageType with
  | clientHello => exact .map (retraces_parseClientHello.mono fun _ _ h => ⟨rfl, h⟩)
  | serverHello => exact .map (retraces_parseServerHello.mono fun _ _ h => ⟨rfl, h⟩)
  | newSessionTicket => exact .map (retraces_parseNewSessionTicket.mono fun _ _ h => ⟨rfl, h⟩)
  | encryptedExtensions => exact .map (retraces_parseExtensions.mono fun _ _ h => ⟨rfl, h⟩)
  | certificate => exact .map (retraces_parseCertificate.mono fun _ _ h => ⟨rfl, h⟩)
  | certificateVerify => exact .map (retraces_parseCertificateVerify.mono fun _ _ h => ⟨rfl, h⟩)
  | finished => exact .map (retraces_parseFinished.mono fun _ _ h => ⟨rfl, congrArg Except.ok h⟩)

end Retracing

section Messages

lemma ofValue?_value (messageType : HandshakeType) :
    HandshakeType.ofValue? messageType.value = some messageType := by
  cases messageType <;> rfl

lemma value_of_ofValue? {value : UInt8} {messageType : HandshakeType}
    (h : HandshakeType.ofValue? value = some messageType) : messageType.value = value := by
  simpa using List.find?_some h

lemma run_parseWholeBody (h : message.FieldsFit) :
    ∃ data, message.body = .ok data ∧ (parseWholeBody message.messageType).run data = .ok message := by
  obtain ⟨data, hdata, hreads⟩ := decodes_parseBody h
  refine ⟨data, hdata, Parser.run_eq_ok_of_ensures ?_⟩
  have hread := hreads 0
  rw [List.append_nil] at hread
  simp only [parseWholeBody, ensures_flow]
  apply hread.mono
  · rintro _ _ ⟨rfl, rfl⟩
    exact ⟨by rintro ⟨⟩, fun _ => rfl⟩
  · exact fun _ _ hfalse => hfalse

lemma body_of_run_parseWholeBody {messageType : HandshakeType} {data : Bytes}
    (h : (parseWholeBody messageType).run data = .ok message) :
    message.messageType = messageType ∧ message.body = .ok data := by
  refine Parser.of_run_eq_ok (Q := fun message => message.messageType = messageType ∧ message.body = .ok data) ?_ h
  simp only [parseWholeBody, ensures_flow]
  apply (retraces_parseBody messageType ⟨data, 0⟩).imp_true
  rintro message b ⟨consumed, hdata, -, htype, hbody⟩
  refine ⟨fun _ => trivial, fun hempty => ⟨htype, ?_⟩⟩
  have hnil : b.rest = [] := List.isEmpty_iff.1 (eq_true_of_ne_false hempty)
  rw [hbody, show data = consumed ++ b.rest from hdata, hnil, List.append_nil]

lemma parseHandshakeMessage_encode (h : message.Fits) :
    ∃ encoded, message.encode = .ok encoded ∧
      ∀ rest, parseHandshakeMessage (encoded ++ rest) = .ok (message, encoded.length) := by
  obtain ⟨body, hbody, hrun⟩ := run_parseWholeBody h.fields
  have hwithin := h.body
  rw [hbody] at hwithin
  obtain ⟨framed, hframed, -⟩ := decodes_pullVec hwithin []
  refine ⟨[message.messageType.value] ++ framed, ?_, fun rest => Parser.run_eq_ok_of_ensures ?_⟩
  · rw [message.encode_eq]
    exact bind_eq_ok.2 ⟨body, hbody, concatEncoded_step rfl (by rw [concatEncoded_singleton, hframed])⟩
  · obtain ⟨_, hsame, hreads⟩ := decodes_pullVec hwithin rest
    cases hframed.symm.trans hsame
    simp only [pullHandshakeType, ensures_bind]
    rw [List.append_assoc]
    apply (reads_pullUint8 message.messageType.value (framed ++ rest)).ensures
    rw [ofValue?_value]
    refine hreads.ensures ?_
    rw [hrun]
    show (message, _) = (message, _)
    rw [List.length_append, Nat.zero_add]

lemma encode_of_parseHandshakeMessage {data : Bytes} {consumed : ℕ}
    (h : parseHandshakeMessage data = .ok (message, consumed)) :
    consumed ≤ data.length ∧ message.encode = .ok (data.take consumed) := by
  refine Parser.of_run_eq_ok (Q := fun out => out.2 ≤ data.length ∧ out.1.encode = .ok (data.take out.2)) ?_ h
  simp only [pullHandshakeType, ensures_bind]
  apply (Parser.retraces_pullUint8 ⟨data, 0⟩).imp_true
  rintro value b ⟨_, hdata, hposition, rfl⟩
  cases htype : HandshakeType.ofValue? value with
  | none => trivial
  | some messageType =>
    apply (retraces_pullVec 3 b).imp_true
    rintro body b' ⟨framed, hrest, hposition', hframed⟩
    rw [ensures_lift]
    refine ⟨fun message hrun => ?_, fun _ _ => trivial⟩
    obtain ⟨rfl, hbody⟩ := body_of_run_parseWholeBody hrun
    have hall : data = ([value] ++ framed) ++ b'.rest := by
      rw [List.append_assoc, ← hrest]
      exact hdata
    have hconsumed : b'.position = ([value] ++ framed).length := by
      rw [hposition', hposition, List.length_append, Nat.zero_add]
    show b'.position ≤ data.length ∧ message.encode = .ok (data.take b'.position)
    rw [hconsumed, hall, List.take_left]
    refine ⟨by simp, ?_⟩
    rw [message.encode_eq, ← value_of_ofValue? htype]
    exact bind_eq_ok.2 ⟨body, hbody, concatEncoded_step rfl (by rw [concatEncoded_singleton, hframed])⟩

theorem handshake_message_bijection :
    (∀ message : HandshakeMessage, message.Fits → ∃ encoded, message.encode = .ok encoded ∧
      ∀ rest, parseHandshakeMessage (encoded ++ rest) = .ok (message, encoded.length)) ∧
    ∀ data message consumed, parseHandshakeMessage data = .ok (message, consumed) →
      consumed ≤ data.length ∧ message.encode = .ok (data.take consumed) :=
  ⟨fun _ h => parseHandshakeMessage_encode h, fun _ _ _ h => encode_of_parseHandshakeMessage h⟩

def twoEntries : HandshakeMessage :=
  .certificate ⟨[], [⟨[1, 2, 3], [⟨5, [4]⟩]⟩, ⟨[6], []⟩]⟩

theorem handshake_message_bijection_twoEntries :
    (∃ encoded, twoEntries.encode = .ok encoded ∧
      parseHandshakeMessage (encoded ++ [20]) = .ok (twoEntries, encoded.length)) ∧
    parseHandshakeMessage [20, 0, 0, 1, 9, 9] = .ok (.finished ⟨[9]⟩, 5) ∧
    HandshakeMessage.encode (.finished ⟨[9]⟩) = .ok [20, 0, 0, 1, 9] := by
  have hfits : twoEntries.Fits := by
    refine ⟨⟨by decide, fun entry hentry => ?_, by decide⟩, by decide⟩
    simp only [List.mem_cons, List.not_mem_nil, or_false] at hentry
    rcases hentry with rfl | rfl
    · refine ⟨by decide, fun ext hext => ?_, by decide⟩
      obtain rfl := List.mem_singleton.1 hext
      exact ⟨by decide, by decide⟩
    · exact ⟨by decide, List.forall_mem_nil _, by decide⟩
  have hparse : parseHandshakeMessage [20, 0, 0, 1, 9, 9] = .ok (.finished ⟨[9]⟩, 5) := by decide
  obtain ⟨encoded, hencoded, hread⟩ := handshake_message_bijection.1 twoEntries hfits
  exact ⟨⟨encoded, hencoded, hread [20]⟩, hparse, (handshake_message_bijection.2 _ _ _ hparse).2⟩

end Messages

end Dsquic.Tls
