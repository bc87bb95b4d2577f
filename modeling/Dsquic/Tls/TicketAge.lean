import Dsquic.Tls.Binders
import Dsquic.Tls.Server
import Mathlib.Tactic.Linarith

/-!
The age of a ticket: an honest client is taken to be fresh, and a hello is fresh for a short time only.
-/

namespace Dsquic.Tls

open Lib Wire Buffer

section Offer

variable {α : Type} {item : Parser α} {encode : α → Except Raised Bytes} {width : ℕ} {data : Bytes}

lemma lt_of_intToBytes {value : ℕ} (h : intToBytes value width = .ok data) : value < 256 ^ width := by
  rw [intToBytes] at h
  split_ifs at h with hlt
  exact hlt

lemma length_lt_of_vec {content : Bytes} (h : vec width content = .ok data) : content.length < 256 ^ width := by
  obtain ⟨header, _, hheader, -, -⟩ := concatEncoded_cons_ok.1 h
  exact lt_of_intToBytes hheader

lemma decodes_of_vecOf {items : List α}
    (hitem : ∀ a data, encode a = .ok data → ∀ rest, item.Decodes (encode a) rest a)
    (hpos : ∀ a data, encode a = .ok data → data ≠ []) (h : vecOf width encode items = .ok data) (rest : Bytes) :
    (pullVecOf width item).Decodes (vecOf width encode items) rest items := by
  obtain ⟨body, hbody, hvec⟩ := bind_eq_ok.1 h
  refine decodes_pullVecOf (fun a ha rest => ?_) hpos ?_ rest
  · obtain ⟨part, hpart⟩ := ok_of_concatEncoded hbody (List.mem_map_of_mem ha)
    exact hitem a part hpart rest
  · rw [hbody]
    exact length_lt_of_vec hvec

lemma decodes_pullPskIdentity {identity : PskIdentity} (h : encodePskIdentity identity = .ok data) (rest : Bytes) :
    pullPskIdentity.Decodes (encodePskIdentity identity) rest identity := by
  obtain ⟨first, others, hfirst, hothers, -⟩ := concatEncoded_cons_ok.1 h
  rw [concatEncoded_singleton] at hothers
  exact .bind (decodes_pullVec (length_lt_of_vec hfirst)) (.bind (decodes_pullUint (lt_of_intToBytes hothers))
    (.pure identity rest))

lemma parseOfferedPsks_encode {identities : List PskIdentity} {binders : List Bytes} {offer : Bytes}
    (h : encodeOfferedPsks identities binders = .ok offer) (hlength : identities.length = binders.length) :
    parseOfferedPsks offer = .ok (identities, binders) := by
  obtain ⟨first, others, hfirst, hothers, -⟩ := concatEncoded_cons_ok.1 h
  rw [concatEncoded_singleton] at hothers
  have hidentities := decodes_of_vecOf (fun _ _ => decodes_pullPskIdentity) (fun identity data hdata => ?_) hfirst
  · have hbinders := decodes_of_vecOf (fun _ _ hdata => decodes_pullVec (length_lt_of_vec hdata))
      (fun _ _ => vec_ne_nil Nat.one_pos) hothers
    have hdecodes : Parser.Decodes (do
        let identities ← pullVecOf 2 pullPskIdentity
        let binders ← pullVecOf 2 (pullVec 1)
        raiseIf (identities.length ≠ binders.length) (.tlsAlert 47 "one binder per identity is required")
        return (identities, binders)) (encodeOfferedPsks identities binders) [] (identities, binders) :=
      .bind hidentities (.bind hbinders (.raiseIf_bind (not_not.2 hlength) (.pure (identities, binders) [])))
    obtain ⟨_, hsame, hreads⟩ := hdecodes
    cases h.symm.trans hsame
    exact hreads.run_eq_ok
  · obtain ⟨part, _, hpart, -, rfl⟩ := concatEncoded_cons_ok.1 hdata
    simp [vec_ne_nil Nat.two_pos hpart]

lemma findExtension_last {extensions : List Extension} {extType : ℕ} {data : Bytes}
    (h : ∀ extension ∈ extensions, extension.type ≠ extType) :
    findExtension (extensions ++ [⟨extType, data⟩]) extType = some data := by
  have hnone : extensions.find? (fun extension => extension.type = extType) = none := by
    rw [List.find?_eq_none]
    simpa using h
  simp [findExtension, List.find?_append, hnone]

end Offer

section Age

lemma truncate_of_nonneg {x : ℚ} (h : 0 ≤ x) : truncate x = ⌊x⌋ := if_pos h

lemma sub_truncate (x : ℚ) : -1 < x - truncate x ∧ x - truncate x ≤ Int.fract x := by
  have hfract := Int.fract_nonneg x
  rw [truncate]
  split_ifs with h
  · rw [Int.self_sub_floor]
    exact ⟨by linarith, le_rfl⟩
  · have hceil := Int.ceil_lt_add_one x
    have hle := Int.le_ceil x
    exact ⟨by linarith, by linarith⟩

lemma claimed_age {age : ℤ} (hage : 0 ≤ age) (hlt : age < 2 ^ 32) (ageAdd : ℕ) :
    ((((age + ageAdd) % 2 ^ 32).toNat : ℤ) - ageAdd) % 2 ^ 32 = age := by
  norm_num at hlt ⊢
  omega

end Age

section Freshness

variable {hashing : Hashing} {server : TlsServer} {draw : TicketDraw} {state : TicketState}
  {message : NewSessionTicket}
  {holder holder' client client' : TlsClient} {ticket : SessionTicket} {hello : ClientHello}

lemma issueSessionTicket_some (h : server.issueSessionTicket hashing draw = .ok (some (state, message))) :
    state.issuedAt = truncate server.now ∧ message.ageAdd = state.ageAdd := by
  rw [TlsServer.issueSessionTicket] at h
  split at h
  · cases h
  · split_ifs at h
    · obtain ⟨ticket, -, h⟩ := bind_eq_ok.1 h
      cases h
      exact ⟨rfl, rfl⟩
    · cases h

lemma storeSessionTicket_ok (h : TlsClient.storeSessionTicket hashing message holder = .ok ⟨⟩ holder')
    (hticket : holder'.sessionTickets = holder.sessionTickets ++ [ticket]) :
    ticket.ageAdd = message.ageAdd ∧ ticket.receivedAt = holder.now := by
  have hspec : Ensures (TlsClient.storeSessionTicket hashing message) holder fun _ holder' =>
      ∀ ticket, holder'.sessionTickets = holder.sessionTickets ++ [ticket] →
        ticket.ageAdd = message.ageAdd ∧ ticket.receivedAt = holder.now := by
    simp only [TlsClient.storeSessionTicket, ensures_flow, implies_true, true_and]
    intro _ ticket hticket
    rw [List.append_cancel_left_eq, List.singleton_inj] at hticket
    rw [← hticket]
    exact ⟨rfl, rfl⟩
  exact hspec.of_ok h ticket hticket

lemma ticketIsFresh_cases (hello : ClientHello) (selected : ℕ × TicketState) :
    (∃ claimed : ℤ, ∀ now, TlsServer.ticketIsFresh hello selected now =
      .ok (decide (|(now - selected.2.issuedAt) * 1000 - claimed| ≤ ticketAgeToleranceMs))) ∨
      ∃ e, ∀ now, TlsServer.ticketIsFresh hello selected now = .error e := by
  simp only [TlsServer.ticketIsFresh]
  split
  · exact .inr ⟨_, fun _ => rfl⟩
  · next offer _ =>
    cases hpsks : parseOfferedPsks offer with
    | error e => exact .inr ⟨e, fun _ => rfl⟩
    | ok psks =>
      simp only [bind, Except.bind]
      split
      · exact .inr ⟨_, fun _ => rfl⟩
      · exact .inl ⟨_, fun _ => rfl⟩

lemma ticketIsFresh_buildClientHello (hticket : client.config.sessionTicket = some ticket)
    (hbuild : TlsClient.buildClientHello client = .ok hello client') (state : TicketState) (now : ℚ) :
    TlsServer.ticketIsFresh hello (0, state) now = .ok (decide (|(now - state.issuedAt) * 1000 -
      (((((truncate ((client.now - ticket.receivedAt) * 1000) + ticket.ageAdd) % 2 ^
        32).toNat : ℤ) - state.ageAdd) % 2 ^ 32 :
        ℤ)| ≤ ticketAgeToleranceMs)) := by
  obtain ⟨extensions, offer, hlast, htypes, hoffer⟩ := extensions_buildClientHello hticket hbuild
  rw [TlsServer.ticketIsFresh, hlast, findExtension_last htypes]
  simp only [parseOfferedPsks_encode hoffer rfl, bind, Except.bind]
  rfl

end Freshness

/-- A ticket that is offered as it was issued is fresh, if the ways of the ticket and of the hello take less than
ten seconds. A hello that is fresh at two times is so within twenty seconds. -/
theorem ticket_freshness (hashing : Hashing) :
    (∀ (server : TlsServer) draw state message (holder holder' : TlsClient) ticket
      (client client' : TlsClient) hello
        (way held way' : ℚ),
      server.issueSessionTicket hashing draw = .ok (some (state, message)) →
      TlsClient.storeSessionTicket hashing message holder = .ok ⟨⟩ holder' →
      holder'.sessionTickets = holder.sessionTickets ++ [ticket] → client.config.sessionTicket = some ticket →
      client.now = holder.now + held → TlsClient.buildClientHello client = .ok hello client' →
      0 ≤ way → 0 ≤ held → 0 ≤ way' → held * 1000 < 2 ^ 32 → way + way' + Int.fract server.now + 1 / 1000 ≤ 10 →
      TlsServer.ticketIsFresh hello (0, state) (server.now + way + held + way') = .ok true) ∧
    ∀ hello selected now now', TlsServer.ticketIsFresh hello selected now = .ok true →
      TlsServer.ticketIsFresh hello selected now' = .ok true → |now - now'| ≤ 20 := by
  constructor
  · intro server draw state message holder holder' ticket client client' hello way held way' hissue hstore
      hticket hclient
      hnow hbuild hway hheld hway' hlt hsum
    obtain ⟨hissued, hadd⟩ := issueSessionTicket_some hissue
    obtain ⟨hadd', hreceived⟩ := storeSessionTicket_ok hstore hticket
    have hms : 0 ≤ held * 1000 := by linarith
    have hage : (client.now - ticket.receivedAt) * 1000 = held * 1000 := by
      rw [hnow, hreceived]
      ring
    have hfloor : ⌊held * 1000⌋ < 2 ^ 32 := by
      rw [Int.floor_lt]
      exact_mod_cast hlt
    rw [ticketIsFresh_buildClientHello hclient hbuild, hage, truncate_of_nonneg hms, hadd', hadd,
      claimed_age (Int.floor_nonneg.2 hms) hfloor, hissued, Except.ok.injEq, decide_eq_true_eq,
      ticketAgeToleranceMs, abs_le]
    obtain ⟨hlow, hhigh⟩ := sub_truncate server.now
    have hle := Int.floor_le (held * 1000)
    have hlt := Int.lt_floor_add_one (held * 1000)
    constructor <;> linarith
  · intro hello selected now now' hfresh hfresh'
    rcases ticketIsFresh_cases hello selected with ⟨claimed, hclaimed⟩ | ⟨e, herror⟩
    · rw [hclaimed, Except.ok.injEq, decide_eq_true_eq, ticketAgeToleranceMs, abs_le] at hfresh hfresh'
      rw [abs_le]
      constructor <;> linarith
    · rw [herror] at hfresh
      cases hfresh

def bareIssuer : TlsServer :=
  { TlsServer.new bareAsymmetric (some []) [] [] [] [] [] [] with clientSupportsResumption := true }

def bareState : TicketState := ⟨List.replicate 32 1, 0, [], [], 0, tlsAes128GcmSha256⟩

def bareMessage : NewSessionTicket :=
  ⟨sessionTicketLifetime, 0, [], bareTicket.identity, [⟨ExtensionType.earlyData, toBytes 4 maxEarlyDataSize⟩]⟩

lemma issued_bareMessage : bareIssuer.issueSessionTicket bareAsymmetric.toHashing ⟨[], [], List.replicate 12 0⟩ =
    .ok (some (bareState, bareMessage)) := by
  decide +kernel

lemma stored_bareMessage : TlsClient.storeSessionTicket bareAsymmetric.toHashing bareMessage bareClient =
    .ok ⟨⟩ { bareClient with sessionTickets := [bareTicket] } := by
  apply eq_ok_of_ensures
  simp only [TlsClient.storeSessionTicket, ensures_flow]
  exact ⟨fun hsize => absurd (by decide +kernel) hsize.2, fun _ => ⟨trivial, rfl⟩⟩

theorem ticket_freshness_bareTicket :
    ∃ hello client, TlsClient.buildClientHello resuming = .ok hello client ∧
      TlsServer.ticketIsFresh hello (0, bareState) (0 + 2 + 5 + 3) = .ok true := by
  obtain ⟨hello, client, hbuild, -⟩ := exists_of_ensures built_resuming
  exact ⟨hello, client, hbuild,
    (ticket_freshness bareAsymmetric.toHashing).1 bareIssuer _ bareState bareMessage bareClient _
    bareTicket resuming client hello 2 5 3 issued_bareMessage stored_bareMessage rfl rfl
      (zero_add 5).symm hbuild (by decide)
    (by decide) (by decide) (by decide +kernel) (by decide +kernel)⟩

end Dsquic.Tls
