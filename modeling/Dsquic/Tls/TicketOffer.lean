import Dsquic.Tls.Authentication
import Dsquic.Tls.TicketAge

/-!
A ticket from its issue to the hello that offers it.
-/

namespace Dsquic.Tls

open Lib Wire Buffer

section Opening

variable {hashing : Hashing} {key nonce ticket : Bytes} {state : TicketState}

lemma ensures_of_decodes {α : Type} {p : Parser α} {encoded : Except Raised Bytes} {data : Bytes} {a : α}
    {position : ℕ}
    {Q : α → Buffer → Prop} {E : Raised → Buffer → Prop} (h : p.Decodes encoded [] a) (hdata : encoded = .ok data)
    (hQ : Q a ⟨[], position + data.length⟩) : Ensures p ⟨data, position⟩ Q E := by
  obtain ⟨_, hsame, hreads⟩ := h
  cases hdata.symm.trans hsame
  rw [← List.append_nil data]
  exact hreads.ensures hQ

lemma openTicket_sealTicket (h : sealTicket hashing key nonce state = .ok ticket)
    (hnonce : nonce.length = ticketNonceLength) (halpn : state.alpn.all (· < 128))
    (hpsk : state.psk.length = sha256Length) (now : ℚ) (lifetime : ℕ) :
    openTicket hashing key ticket now lifetime =
      .ok (if now - state.issuedAt > lifetime then none else some state) := by
  obtain ⟨psk, ageAdd, alpn, parameters, issuedAt, suite⟩ := state
  obtain ⟨plaintext, hplain, h⟩ := bind_eq_ok.1 h
  cases h
  obtain ⟨first, others, hfirst, hothers, rfl⟩ := concatEncoded_cons_ok.1 hplain
  rw [encodeIssuedAt] at hfirst
  split_ifs at hfirst with hneg
  obtain ⟨issued, rfl⟩ := Int.eq_ofNat_of_zero_le (not_lt.1 hneg)
  obtain ⟨_, hsame, hissued⟩ := decodes_pullUint (lt_of_intToBytes hfirst) others
  cases hfirst.symm.trans hsame
  rw [openTicket, List.take_left' hnonce, List.drop_left' hnonce, if_neg (by rw [hnonce]; decide),
    hashing.aeadDecrypt_encrypt]
  apply Parser.run_eq_ok_of_ensures
  rw [ensures_bind]
  apply hissued.ensures
  rw [Int.toNat_natCast, Int.cast_natCast]
  split_ifs
  · exact rfl
  · obtain ⟨_, hage⟩ := ok_of_concatEncoded hothers (show intToBytes ageAdd 4 ∈ _ by simp)
    obtain ⟨_, hsuite⟩ := ok_of_concatEncoded hothers (show intToBytes suite 2 ∈ _ by simp)
    obtain ⟨_, hprotocol⟩ := ok_of_concatEncoded hothers (show vec 1 alpn ∈ _ by simp)
    obtain ⟨_, hparameters⟩ := ok_of_concatEncoded hothers (show vec 2 parameters ∈ _ by simp)
    refine ensures_of_decodes ?_ hothers rfl
    apply Parser.Decodes.bind (decodes_pullUint (lt_of_intToBytes hage))
    apply Parser.Decodes.bind (decodes_pullUint (lt_of_intToBytes hsuite))
    apply Parser.Decodes.bind (decodes_pullVec (length_lt_of_vec hprotocol))
    rw [decodeAscii, if_pos halpn]
    apply Parser.Decodes.bind (decodes_pullVec (length_lt_of_vec hparameters))
    exact .bind_pure _ (decodes_pullBytes hpsk [])

end Opening

section Passing

variable {prims : Asymmetric} {issuer : TlsServer} {draw : TicketDraw} {holder : TlsClient} {state : TicketState}
  {ticket : SessionTicket}

structure Passed (prims : Asymmetric) (issuer : TlsServer) (draw : TicketDraw) (holder : TlsClient)
    (state : TicketState)
    (ticket : SessionTicket) : Prop where
  sealNonce : draw.sealNonce.length = ticketNonceLength
  alpn : issuer.alpn.all (· < 128)
  secret : holder.schedule.resumptionMasterSecret prims.toHashing =
    issuer.schedule.resumptionMasterSecret prims.toHashing
  kept : ∃ message holder', issuer.issueSessionTicket prims.toHashing draw = .ok (some (state, message)) ∧
    TlsClient.storeSessionTicket prims.toHashing message holder = .ok ⟨⟩ holder' ∧
    holder'.sessionTickets = holder.sessionTickets ++ [ticket]

lemma ticket_of_storeSessionTicket {hashing : Hashing} {message : NewSessionTicket} {holder' : TlsClient}
    (h : TlsClient.storeSessionTicket hashing message holder = .ok ⟨⟩ holder')
    (hticket : holder'.sessionTickets = holder.sessionTickets ++ [ticket]) :
    ticket.identity = message.ticket ∧
      ticket.psk = resumptionPsk hashing (holder.schedule.resumptionMasterSecret hashing) message.nonce := by
  revert hticket
  refine Ensures.of_ok (Q := fun _ holder' => holder'.sessionTickets = holder.sessionTickets ++ [ticket] → _)
    (E := fun _ _ => True) ?_ h
  simp only [TlsClient.storeSessionTicket, ensures_flow, implies_true, true_and, List.append_cancel_left_eq,
    List.singleton_inj]
  rintro - rfl
  exact ⟨rfl, rfl⟩

lemma Passed.opens (h : Passed prims issuer draw holder state ticket) :
    ticket.psk = state.psk ∧ ∃ key, issuer.ticketKey = some key ∧
      ∀ now, openTicket prims.toHashing key ticket.identity now sessionTicketLifetime =
        .ok (if now - state.issuedAt > sessionTicketLifetime then none else some state) := by
  obtain ⟨message, holder', hissue, hstore, hticket⟩ := h.kept
  obtain ⟨hidentity, hpsk⟩ := ticket_of_storeSessionTicket hstore hticket
  rw [hidentity, hpsk, h.secret]
  rw [TlsServer.issueSessionTicket] at hissue
  split at hissue
  · cases hissue
  · next key hkey =>
    split_ifs at hissue
    · obtain ⟨sealed, hsealed, hissue⟩ := bind_eq_ok.1 hissue
      cases hissue
      exact ⟨rfl, key, hkey, fun now =>
        openTicket_sealTicket hsealed h.sealNonce h.alpn (prims.length_hkdfExpandLabel _ _ _ _) now _⟩
    · cases hissue

/-- A ticket is worth its lifetime, and the key that its client derived. The binder of the hello that offers it is
compared with that key, and a ticket past its lifetime is passed over. -/
theorem tickets_select_exactly {server : TlsServer} {hello : ClientHello} {raw offer cut : Bytes} {age : ℕ}
    {others : List PskIdentity} {binders : List Bytes} (h : Passed prims issuer draw holder state ticket)
    (hkey : server.ticketKey = issuer.ticketKey) (hretry : server.helloRetrySent = false)
    (hoffer : findExtension hello.extensions ExtensionType.preSharedKey = some offer)
    (hlast : hello.extensions.getLast?.map (·.type) = some ExtensionType.preSharedKey)
    (hmodes : TlsServer.supportsResumption hello = true)
    (hparse : parseOfferedPsks offer = .ok (⟨ticket.identity, age⟩ :: others, binders))
    (hcut : binderTranscript raw binders.length = .ok cut) :
    ∃ key, server.ticketKey = some key ∧ server.selectPsk prims hello raw =
      if server.now - state.issuedAt > sessionTicketLifetime then
        TlsServer.firstTicket prims key raw binders server.now (others.zipIdx 1)
      else if binders[0]? = some (finishedVerifyData prims.toHashing
          ((KeySchedule.new prims.toHashing (some ticket.psk)).binderKey prims.toHashing) (prims.sha256 cut)) then
        .ok (some (0, state))
      else .error (.tlsAlert Alert.decryptError "PSK binder does not verify (§4.2.11.2)") := by
  obtain ⟨hpsk, key, hissuer, hopen⟩ := h.opens
  have hserver := hkey.trans hissuer
  have hsome : (findExtension hello.extensions ExtensionType.pskKeyExchangeModes).isSome = true := by
    rw [TlsServer.supportsResumption] at hmodes
    split at hmodes
    · cases hmodes
    · next heq => rw [heq, Option.isSome_some]
  have hselect : server.selectPsk prims hello raw = TlsServer.firstTicket prims key raw binders server.now
      ((⟨ticket.identity, age⟩, 0) :: others.zipIdx 1) := by
    simp only [TlsServer.selectPsk, hoffer, hlast, hsome, hmodes, hserver, hretry, hparse]
    rfl
  refine ⟨key, hserver, ?_⟩
  rw [hselect, TlsServer.firstTicket, hopen, hpsk]
  split_ifs with hold hbinder
  · rfl
  · simp only [bind, Except.bind, hcut]
    rw [if_neg (not_not.2 hbinder)]
  · simp only [bind, Except.bind, hcut]
    rw [if_pos hbinder]

end Passing

lemma passed_bareTicket :
    Passed bareAsymmetric bareIssuer ⟨[], [], List.replicate 12 0⟩ bareClient bareState bareTicket where
  sealNonce := rfl
  alpn := rfl
  secret := rfl
  kept := by
    exact ⟨bareMessage, _, issued_bareMessage, stored_bareMessage, rfl⟩

def bareOffer : Bytes := [0, 83, 0, 77] ++ bareTicket.identity ++ [0, 0, 0, 0, 0, 33, 32] ++ List.replicate 32 0

theorem tickets_select_exactly_bareTicket : ∃ hello raw,
    bareIssuer.selectPsk bareAsymmetric hello raw = .ok (some (0, bareState)) := by
  have hnow : ¬bareIssuer.now - bareState.issuedAt > sessionTicketLifetime := by decide +kernel
  obtain ⟨key, -, hselect⟩ := @tickets_select_exactly bareAsymmetric bareIssuer _ _ _ _ bareIssuer
    ⟨[], [], [], [⟨ExtensionType.pskKeyExchangeModes, [1, 1]⟩, ⟨ExtensionType.preSharedKey, bareOffer⟩]⟩
    (List.replicate 36 0) bareOffer [0] 0 [] [List.replicate 32 0] passed_bareTicket rfl rfl rfl rfl rfl
    (by decide +kernel) rfl
  rw [if_neg hnow] at hselect
  exact ⟨_, _, hselect⟩

end Dsquic.Tls
