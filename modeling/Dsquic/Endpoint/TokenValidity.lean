import Dsquic.Connection.Plain
import Dsquic.Endpoint.Tokens

/-!
The tokens that a server accepts are those that it has minted, for the address they were minted for and for
their lifetime.
-/

namespace Dsquic.Endpoint

open Lib Wire Buffer Connection

abbrev nonceError : Raised := .value "Nonce must be between 8 and 128 bytes"

section Payload

variable {cid address payload stamp : Bytes} {issued now lifetime : ℚ}

lemma length_timestamp (h : timestamp now = .ok stamp) : stamp.length = 8 := by
  simp only [timestamp] at h
  split at h
  · cases h
  · exact length_intToBytes h

lemma wholeSeconds_of_timestamp (h : timestamp issued = .ok stamp) :
    0 ≤ wholeSeconds issued ∧ stamp.length = 8 ∧ fromBytes stamp = (wholeSeconds issued).toNat := by
  have hlength := length_timestamp h
  simp only [timestamp] at h
  split at h
  · cases h
  · next hseconds =>
    simp only [intToBytes] at h
    split at h
    · next hsmall =>
      cases h
      exact ⟨not_lt.1 hseconds, hlength, (fromBytes_toBytes 8 _).trans (Nat.mod_eq_of_lt hsmall)⟩
    · cases h

lemma run_tokenPayload (h : tokenPayload cid address issued = .ok payload) :
    0 ≤ wholeSeconds issued ∧ Parser.run (do
      let originalDestinationCid ← pullLengthPrefixed
      let issued ← pullIssued
      return (originalDestinationCid, issued)) payload = .ok (cid, (address, (wholeSeconds issued).toNat)) := by
  simp only [tokenPayload, concatEncoded_cons_ok, concatEncoded_singleton, Except.ok.injEq] at h
  obtain ⟨cidLength, _, hcid, ⟨_, _, rfl, ⟨addressLength, _, haddress, ⟨_, stamp, rfl, hstamp, rfl⟩, rfl⟩, rfl⟩,
    rfl⟩ := h
  obtain ⟨hseconds, hlength, hvalue⟩ := wholeSeconds_of_timestamp hstamp
  refine ⟨hseconds, Parser.run_eq_ok_of_ensures ?_⟩
  simp only [pullLengthPrefixed, pullIssued, ensures_state]
  apply (reads_pullVarint hcid _).ensures
  apply (reads_pullBytes cid _).ensures
  apply (reads_pullVarint haddress _).ensures
  apply (reads_pullBytes address _).ensures
  rw [← List.append_nil stamp, ← hlength]
  apply (reads_pullBytes stamp []).ensures
  rw [hvalue]

lemma run_newTokenPayload (h : newTokenPayload address issued = .ok payload) :
    0 ≤ wholeSeconds issued ∧ pullIssued.run payload = .ok (address, (wholeSeconds issued).toNat) := by
  simp only [newTokenPayload, concatEncoded_cons_ok, concatEncoded_singleton, Except.ok.injEq] at h
  obtain ⟨addressLength, _, haddress, ⟨_, stamp, rfl, hstamp, rfl⟩, rfl⟩ := h
  obtain ⟨hseconds, hlength, hvalue⟩ := wholeSeconds_of_timestamp hstamp
  refine ⟨hseconds, Parser.run_eq_ok_of_ensures ?_⟩
  simp only [pullLengthPrefixed, pullIssued, ensures_state]
  apply (reads_pullVarint haddress _).ensures
  apply (reads_pullBytes address _).ensures
  rw [← List.append_nil stamp, ← hlength]
  apply (reads_pullBytes stamp []).ensures
  rw [hvalue]

lemma checkIssued_cases (hseconds : 0 ≤ wholeSeconds issued) (address clientAddress : Bytes) (now lifetime : ℚ) :
    (address = clientAddress ∧ now - wholeSeconds issued ≤ lifetime ∧
      checkIssued (address, (wholeSeconds issued).toNat) clientAddress now lifetime = .ok ⟨⟩) ∨
    (¬(address = clientAddress ∧ now - wholeSeconds issued ≤ lifetime) ∧
      ∃ reason, checkIssued (address, (wholeSeconds issued).toNat) clientAddress now lifetime =
        .error (.token reason)) := by
  have hcast : ((wholeSeconds issued).toNat : ℚ) = wholeSeconds issued := by
    exact_mod_cast Int.toNat_of_nonneg hseconds
  simp only [checkIssued, hcast]
  by_cases haddress : address = clientAddress
  · by_cases htime : now - wholeSeconds issued ≤ lifetime
    · exact .inl ⟨haddress, htime, by rw [if_neg (not_not.2 haddress), if_neg (not_lt.2 htime)]⟩
    · refine .inr ⟨fun h => htime h.2, "token has expired", ?_⟩
      rw [if_neg (not_not.2 haddress), if_pos (not_le.1 htime)]
  · exact .inr ⟨fun h => haddress h.1, "token was issued to another address", if_pos haddress⟩

end Payload

section Opening

variable {prims : Primitives} {key kind nonce payload token : Bytes}

def nonceOf (kind token : Bytes) : Bytes := (token.drop kind.length).take nonceLength

def sealedOf (kind token : Bytes) : Bytes := token.drop (kind.length + nonceLength)

lemma token_eq (h : kind <+: token) : token = kind ++ nonceOf kind token ++ sealedOf kind token := by
  obtain ⟨rest, rfl⟩ := h
  simp only [nonceOf, sealedOf, List.drop_left, ← List.drop_drop, List.append_assoc, List.take_append_drop]

lemma nonceOf_sealed (hnonce : nonce.length = nonceLength) (data : Bytes) :
    nonceOf kind (kind ++ nonce ++ data) = nonce := by
  rw [nonceOf, List.append_assoc, List.drop_left, ← hnonce, List.take_left]

lemma sealedOf_sealed (hnonce : nonce.length = nonceLength) (data : Bytes) :
    sealedOf kind (kind ++ nonce ++ data) = data := by
  rw [sealedOf, ← hnonce, ← List.length_append, List.drop_left]

lemma openToken_eq (prims : Primitives) (key kind token : Bytes) :
    openToken prims key kind token =
      if (nonceOf kind token).length < 8 then .error nonceError
      else match prims.aeadDecrypt .aesGcm key (nonceOf kind token) (sealedOf kind token) kind with
        | some payload => .ok payload
        | none => .error (.token "token does not authenticate") := by
  have hle : (nonceOf kind token).length ≤ 12 := List.length_take_le _ _
  have hshort : ((nonceOf kind token).length < 8 ∨ 128 < (nonceOf kind token).length) ↔
    (nonceOf kind token).length < 8 :=
    or_iff_left (by omega)
  show (aesGcmDecrypt prims key (nonceOf kind token) (sealedOf kind token) kind).mapError _ = _
  simp only [aesGcmDecrypt, hshort]
  split_ifs
  · rfl
  · cases prims.aeadDecrypt .aesGcm key (nonceOf kind token) (sealedOf kind token) kind <;> rfl

lemma openToken_sealed (hnonce : nonce.length = nonceLength) :
    openToken prims key kind (kind ++ nonce ++ prims.aeadEncrypt .aesGcm key nonce payload kind) =
      .ok payload := by
  have hlong : ¬nonce.length < 8 := by
    rw [hnonce]
    decide
  rw [openToken_eq, nonceOf_sealed hnonce, sealedOf_sealed hnonce, if_neg hlong, prims.aeadDecrypt_encrypt]

end Opening

inductive Mint
  | retry (nonce : { nonce : Bytes // nonce.length = nonceLength })
    (originalDestinationCid clientAddress : Bytes) (now : ℚ)
  | new (nonce : { nonce : Bytes // nonce.length = nonceLength }) (clientAddress : Bytes) (now : ℚ)

namespace Mint

def kind : Mint → Bytes
  | retry _ _ _ _ => retryToken
  | new _ _ _ => newToken

def nonce : Mint → Bytes
  | retry nonce _ _ _ => nonce.1
  | new nonce _ _ => nonce.1

def payload : Mint → Except Raised Bytes
  | retry _ originalDestinationCid clientAddress now => tokenPayload originalDestinationCid clientAddress now
  | new _ clientAddress now => newTokenPayload clientAddress now

end Mint

def Unforged (prims : Primitives) (key : Bytes) (mints : List Mint) (token : Bytes) : Prop :=
  ∀ kind payload, (kind = retryToken ∨ kind = newToken) → kind <+: token →
    prims.aeadDecrypt .aesGcm key (nonceOf kind token) (sealedOf kind token) kind = some payload →
    ∃ mint ∈ mints, mint.kind = kind ∧ mint.nonce = nonceOf kind token ∧ mint.payload = .ok payload ∧
      sealedOf kind token = prims.aeadEncrypt .aesGcm key mint.nonce payload kind

section Validity

variable {prims : Primitives} {key token cid address clientAddress payload : Bytes} {mints : List Mint}
  {issued now lifetime : ℚ}

lemma validateToken_of_open (clientAddress : Bytes) (hkind : retryToken <+: token)
    (hopen : openToken prims key retryToken token = .ok payload)
    (hpayload : tokenPayload cid address issued = .ok payload) :
    (address = clientAddress ∧ now - wholeSeconds issued ≤ lifetime ∧
      validateToken prims key token clientAddress now lifetime = .ok cid) ∨
    (¬(address = clientAddress ∧ now - wholeSeconds issued ≤ lifetime) ∧
      ∃ reason, validateToken prims key token clientAddress now lifetime = .error (.token reason)) := by
  obtain ⟨hseconds, hrun⟩ := run_tokenPayload hpayload
  rw [validateToken, if_neg (not_not.2 hkind)]
  rcases checkIssued_cases hseconds address clientAddress now lifetime with
    ⟨haddress, htime, hcheck⟩ | ⟨hrefused, reason, hcheck⟩
  · exact .inl ⟨haddress, htime, bind_eq_ok.2 ⟨_, hopen, bind_eq_ok.2 ⟨_, hrun, bind_eq_ok.2 ⟨_, hcheck, rfl⟩⟩⟩⟩
  · refine .inr ⟨hrefused, reason, ?_⟩
    rw [hopen]
    show (Parser.run _ payload >>= _) = _
    rw [hrun]
    show (checkIssued _ _ _ _ >>= _) = _
    rw [hcheck]
    rfl

lemma validateNewToken_of_open (clientAddress : Bytes) (hkind : newToken <+: token)
    (hopen : openToken prims key newToken token = .ok payload)
    (hpayload : newTokenPayload address issued = .ok payload) :
    (address = clientAddress ∧ now - wholeSeconds issued ≤ lifetime ∧
      validateNewToken prims key token clientAddress now lifetime = .ok ⟨⟩) ∨
    (¬(address = clientAddress ∧ now - wholeSeconds issued ≤ lifetime) ∧
      ∃ reason, validateNewToken prims key token clientAddress now lifetime = .error (.token reason)) := by
  obtain ⟨hseconds, hrun⟩ := run_newTokenPayload hpayload
  rw [validateNewToken, if_neg (not_not.2 hkind)]
  rcases checkIssued_cases hseconds address clientAddress now lifetime with
    ⟨haddress, htime, hcheck⟩ | ⟨hrefused, reason, hcheck⟩
  · exact .inl ⟨haddress, htime, bind_eq_ok.2 ⟨_, hopen, bind_eq_ok.2 ⟨_, hrun, hcheck⟩⟩⟩
  · refine .inr ⟨hrefused, reason, ?_⟩
    rw [hopen]
    show (Parser.run _ payload >>= _) = _
    rw [hrun]
    exact hcheck

lemma validateToken_mintToken {nonce : Bytes} (hnonce : nonce.length = nonceLength)
    (h : mintToken prims key nonce cid address issued = .ok token) (htime : now - wholeSeconds issued ≤ lifetime) :
    validateToken prims key token address now lifetime = .ok cid := by
  obtain ⟨payload, hpayload, h⟩ := bind_eq_ok.1 h
  cases h
  have hkind : retryToken <+: retryToken ++ nonce ++ prims.aeadEncrypt .aesGcm key nonce payload retryToken := by
    rw [List.append_assoc]
    exact List.prefix_append _ _
  rcases validateToken_of_open address hkind (openToken_sealed hnonce) hpayload with
    ⟨-, -, hvalid⟩ | ⟨hrefused, -⟩
  · exact hvalid
  · exact absurd ⟨rfl, htime⟩ hrefused

lemma validateNewToken_mintNewToken {nonce : Bytes} (hnonce : nonce.length = nonceLength)
    (h : mintNewToken prims key nonce address issued = .ok token) (htime : now - wholeSeconds issued ≤ lifetime) :
    validateNewToken prims key token address now lifetime = .ok ⟨⟩ := by
  obtain ⟨payload, hpayload, h⟩ := bind_eq_ok.1 h
  cases h
  have hkind : newToken <+: newToken ++ nonce ++ prims.aeadEncrypt .aesGcm key nonce payload newToken := by
    rw [List.append_assoc]
    exact List.prefix_append _ _
  rcases validateNewToken_of_open address hkind (openToken_sealed hnonce) hpayload with
    ⟨-, -, hvalid⟩ | ⟨hrefused, -⟩
  · exact hvalid
  · exact absurd ⟨rfl, htime⟩ hrefused

lemma length_nonceOf {kind : Bytes} (hofkind : kind = retryToken ∨ kind = newToken) (token : Bytes) :
    (nonceOf kind token).length < 8 ↔ token.length < 9 := by
  have hlength : kind.length = 1 := by rcases hofkind with rfl | rfl <;> rfl
  rw [nonceOf, List.length_take, List.length_drop, hlength, nonceLength]
  omega

lemma openToken_cases (h : Unforged prims key mints token) {kind : Bytes}
    (hofkind : kind = retryToken ∨ kind = newToken)
    (hkind : kind <+: token) :
    openToken prims key kind token = .error (.token "token does not authenticate") ∨
    (∃ mint ∈ mints, ∃ payload, mint.kind = kind ∧ mint.payload = .ok payload ∧
      openToken prims key kind token = .ok payload ∧
      token = kind ++ mint.nonce ++ prims.aeadEncrypt .aesGcm key mint.nonce payload kind) ∨
    (token.length < 9 ∧ openToken prims key kind token = .error nonceError) := by
  have hopen := openToken_eq prims key kind token
  split_ifs at hopen with hshort
  · exact .inr (.inr ⟨(length_nonceOf hofkind token).1 hshort, hopen⟩)
  · cases hdecrypt : prims.aeadDecrypt .aesGcm key (nonceOf kind token) (sealedOf kind token) kind with
    | none =>
      rw [hdecrypt] at hopen
      exact .inl hopen
    | some payload =>
      rw [hdecrypt] at hopen
      obtain ⟨mint, hmint, hmintkind, hnonce, hpayload, hsealed⟩ := h kind payload hofkind hkind hdecrypt
      refine .inr (.inl ⟨mint, hmint, payload, hmintkind, hpayload, hopen, ?_⟩)
      rw [← hsealed, hnonce]
      exact token_eq hkind

lemma validateToken_cases (h : Unforged prims key mints token) (clientAddress : Bytes) (now lifetime : ℚ) :
    (∃ reason, validateToken prims key token clientAddress now lifetime = .error (.token reason)) ∨
    (∃ nonce cid issued, .retry nonce cid clientAddress issued ∈ mints ∧
      mintToken prims key nonce.1 cid clientAddress issued = .ok token ∧ now - wholeSeconds issued ≤ lifetime ∧
      validateToken prims key token clientAddress now lifetime = .ok cid) ∨
    (retryToken <+: token ∧ token.length < 9 ∧
      validateToken prims key token clientAddress now lifetime = .error nonceError) := by
  by_cases hkind : retryToken <+: token
  · rcases openToken_cases h (.inl rfl) hkind with hopen | ⟨mint, hmint, payload, hofkind, hpayload,
      hopen, htoken⟩ |
      ⟨hshort, hopen⟩
    · refine .inl ⟨"token does not authenticate", ?_⟩
      rw [validateToken, if_neg (not_not.2 hkind), hopen]
      rfl
    · cases mint with
      | new nonce address issued => exact absurd (show newToken = retryToken from hofkind) (by decide)
      | retry nonce cid address issued =>
        rcases validateToken_of_open clientAddress hkind hopen hpayload with
          ⟨rfl, htime, hvalid⟩ | ⟨-, hrefused⟩
        · exact .inr
            (.inl ⟨nonce, cid, issued, hmint, bind_eq_ok.2 ⟨payload, hpayload, congrArg Except.ok htoken.symm⟩,
            htime, hvalid⟩)
        · exact .inl hrefused
    · refine .inr (.inr ⟨hkind, hshort, ?_⟩)
      rw [validateToken, if_neg (not_not.2 hkind), hopen]
      rfl
  · exact .inl ⟨_, if_pos hkind⟩

lemma validateNewToken_cases (h : Unforged prims key mints token) (clientAddress : Bytes) (now lifetime : ℚ) :
    (∃ reason, validateNewToken prims key token clientAddress now lifetime = .error (.token reason)) ∨
    (∃ nonce issued, .new nonce clientAddress issued ∈ mints ∧
      mintNewToken prims key nonce.1 clientAddress issued = .ok token ∧ now - wholeSeconds issued ≤ lifetime ∧
      validateNewToken prims key token clientAddress now lifetime = .ok ⟨⟩) ∨
    (newToken <+: token ∧ token.length < 9 ∧
      validateNewToken prims key token clientAddress now lifetime =
        .error nonceError) := by
  by_cases hkind : newToken <+: token
  · rcases openToken_cases h (.inr rfl) hkind with hopen | ⟨mint, hmint, payload, hofkind, hpayload,
      hopen, htoken⟩ |
      ⟨hshort, hopen⟩
    · refine .inl ⟨"token does not authenticate", ?_⟩
      rw [validateNewToken, if_neg (not_not.2 hkind), hopen]
      rfl
    · cases mint with
      | retry nonce cid address issued => exact absurd (show retryToken = newToken from hofkind) (by decide)
      | new nonce address issued =>
        rcases validateNewToken_of_open clientAddress hkind hopen hpayload with
          ⟨rfl, htime, hvalid⟩ | ⟨-, hrefused⟩
        · exact .inr (.inl ⟨nonce, issued, hmint, bind_eq_ok.2 ⟨payload, hpayload, congrArg Except.ok htoken.symm⟩,
            htime, hvalid⟩)
        · exact .inl hrefused
    · refine .inr (.inr ⟨hkind, hshort, ?_⟩)
      rw [validateNewToken, if_neg (not_not.2 hkind), hopen]
      rfl
  · exact .inl ⟨_, if_pos hkind⟩

lemma validateToken_short (hkind : retryToken <+: token) (hshort : token.length < 9) :
    validateToken prims key token clientAddress now lifetime = .error nonceError := by
  rw [validateToken, if_neg (not_not.2 hkind), openToken_eq, if_pos ((length_nonceOf (.inl rfl) token).2 hshort)]
  rfl

lemma validateNewToken_short (hkind : newToken <+: token) (hshort : token.length < 9) :
    validateNewToken prims key token clientAddress now lifetime =
      .error nonceError := by
  rw [validateNewToken, if_neg (not_not.2 hkind), openToken_eq,
    if_pos ((length_nonceOf (.inr rfl) token).2 hshort)]
  rfl

/-- Validation raises only token errors exactly if the token is long enough for its nonce, and succeeds exactly for
tokens that were minted, for their kind and address and within their lifetime. -/
theorem tokens_validate_exactly (h : Unforged prims key mints token) (clientAddress : Bytes) (now lifetime : ℚ) :
    ((∀ e, validateToken prims key token clientAddress now lifetime = .error e → ∃ reason, e = .token reason) ↔
      ¬(retryToken <+: token ∧ token.length < 9)) ∧
    ((∀ e, validateNewToken prims key token clientAddress now lifetime = .error e → ∃ reason, e = .token reason) ↔
      ¬(newToken <+: token ∧ token.length < 9)) ∧
    (∀ cid, validateToken prims key token clientAddress now lifetime = .ok cid ↔
      ∃ nonce issued, .retry nonce cid clientAddress issued ∈ mints ∧
        mintToken prims key nonce.1 cid clientAddress issued = .ok token ∧ now - wholeSeconds issued ≤ lifetime) ∧
    (validateNewToken prims key token clientAddress now lifetime = .ok ⟨⟩ ↔
      ∃ nonce issued, .new nonce clientAddress issued ∈ mints ∧
        mintNewToken prims key nonce.1 clientAddress issued = .ok token ∧ now - wholeSeconds issued ≤ lifetime) ∧
    (∀ nonce address issued, mintNewToken prims key nonce address issued = .ok token →
      ∃ reason, validateToken prims key token clientAddress now lifetime = .error (.token reason)) ∧
    (∀ nonce cid address issued, mintToken prims key nonce cid address issued = .ok token →
      ∃ reason, validateNewToken prims key token clientAddress now lifetime = .error (.token reason)) := by
  refine ⟨⟨fun hraises ⟨hkind, hshort⟩ => ?_, fun hlong e he => ?_⟩,
    ⟨fun hraises ⟨hkind, hshort⟩ => ?_, fun hlong e he => ?_⟩, fun cid => ⟨fun hvalid => ?_, ?_⟩,
    ⟨fun hvalid => ?_, ?_⟩, fun nonce address issued hmint => ?_, fun nonce cid address issued hmint => ?_⟩
  · obtain ⟨reason, hreason⟩ := hraises _ (validateToken_short hkind hshort)
    cases hreason
  · rcases validateToken_cases h clientAddress now lifetime with ⟨reason, hcase⟩ | ⟨_, _, _, _, _, _, hcase⟩ |
      ⟨hkind, hshort, -⟩
    · exact ⟨reason, Except.error.inj (he.symm.trans hcase)⟩
    · cases he.symm.trans hcase
    · exact absurd ⟨hkind, hshort⟩ hlong
  · obtain ⟨reason, hreason⟩ := hraises _ (validateNewToken_short hkind hshort)
    cases hreason
  · rcases validateNewToken_cases h clientAddress now lifetime with ⟨reason, hcase⟩ | ⟨_, _, _, _, _, hcase⟩ |
      ⟨hkind, hshort, -⟩
    · exact ⟨reason, Except.error.inj (he.symm.trans hcase)⟩
    · cases he.symm.trans hcase
    · exact absurd ⟨hkind, hshort⟩ hlong
  · rcases validateToken_cases h clientAddress now lifetime with ⟨reason, hcase⟩ |
      ⟨nonce, cid', issued, hmem, hmint, htime, hcase⟩ | ⟨-, -, hcase⟩
    · cases hvalid.symm.trans hcase
    · cases hvalid.symm.trans hcase
      exact ⟨nonce, issued, hmem, hmint, htime⟩
    · cases hvalid.symm.trans hcase
  · rintro ⟨nonce, issued, -, hmint, htime⟩
    exact validateToken_mintToken nonce.2 hmint htime
  · rcases validateNewToken_cases h clientAddress now lifetime with ⟨reason, hcase⟩ |
      ⟨nonce, issued, hmem, hmint, htime, -⟩ | ⟨-, -, hcase⟩
    · cases hvalid.symm.trans hcase
    · exact ⟨nonce, issued, hmem, hmint, htime⟩
    · cases hvalid.symm.trans hcase
  · rintro ⟨nonce, issued, -, hmint, htime⟩
    exact validateNewToken_mintNewToken nonce.2 hmint htime
  · obtain ⟨payload, -, hmint⟩ := bind_eq_ok.1 hmint
    cases hmint
    exact ⟨_, if_pos fun hkind => absurd (List.cons_prefix_cons.1 hkind).1 (by decide)⟩
  · obtain ⟨payload, -, hmint⟩ := bind_eq_ok.1 hmint
    cases hmint
    exact ⟨_, if_pos fun hkind => absurd (List.cons_prefix_cons.1 hkind).1 (by decide)⟩

end Validity

def plainToken : Bytes := retryToken ++ List.replicate 12 5 ++ [0, 1, 9] ++ List.replicate 8 0 ++
  List.replicate 16 0

lemma unforged_plainToken :
    Unforged plainPrimitives [] [.retry ⟨List.replicate 12 5, rfl⟩ [] [9] 0] plainToken := by
  rintro kind payload (rfl | rfl) hkind hopens
  · refine ⟨_, List.mem_singleton_self _, rfl, rfl, ?_, ?_⟩
    · rw [← Option.some.inj (show some ([0, 1, 9] ++ List.replicate 8 0) = some payload from hopens)]
      decide +kernel
    · rw [← Option.some.inj (show some ([0, 1, 9] ++ List.replicate 8 0) = some payload from hopens)]
      decide +kernel
  · exact absurd hkind (by decide)

theorem tokens_validate_exactly_plain :
    validateToken plainPrimitives [] plainToken [9] 60 60 = .ok [] :=
  ((tokens_validate_exactly unforged_plainToken [9] 60 60).2.2.1 []).2
    ⟨⟨List.replicate 12 5, rfl⟩, 0, List.mem_singleton_self _, by decide +kernel, by decide +kernel⟩

theorem short_token_raises :
    validateToken plainPrimitives [] retryToken [9] 0 60 =
      .error (.value "Nonce must be between 8 and 128 bytes") ∧
      validateNewToken plainPrimitives [] newToken [9] 0 60 =
        .error (.value "Nonce must be between 8 and 128 bytes") := by
  decide +kernel

end Dsquic.Endpoint
