import Dsquic.Tls.Client
import Dsquic.Tls.MessageCodec

/-!
The bytes that the binders of a ClientHello cover.
-/

namespace Dsquic.Tls

open Lib Wire Buffer

section Suffixes

variable {α : Type} {data : Bytes} {content : Bytes} {width : ℕ}

lemma suffix_concatEncoded (parts : List (Except Raised Bytes)) {part : Except Raised Bytes}
    (h : concatEncoded (parts ++ [part]) = .ok data) : ∃ last, part = .ok last ∧ last <:+ data := by
  induction parts generalizing data with
  | nil =>
    rw [List.nil_append, concatEncoded_singleton] at h
    exact ⟨data, h, List.suffix_rfl⟩
  | cons first parts ih =>
    obtain ⟨front, others, -, hothers, rfl⟩ := concatEncoded_cons_ok.1 h
    obtain ⟨last, hlast, hsuffix⟩ := ih hothers
    exact ⟨last, hlast, hsuffix.trans (List.suffix_append front others)⟩

lemma suffix_vec (h : vec width content = .ok data) : content <:+ data := by
  obtain ⟨last, hlast, hsuffix⟩ := suffix_concatEncoded [intToBytes content.length width] h
  cases hlast
  exact hsuffix

lemma length_vec (h : vec width content = .ok data) :
    data.length = width + content.length := by
  obtain ⟨header, others, hheader, hothers, rfl⟩ := concatEncoded_cons_ok.1 h
  rw [concatEncoded_singleton] at hothers
  cases hothers
  rw [List.length_append, length_intToBytes hheader]

lemma suffix_vecOf {encode : α → Except Raised Bytes} {items : List α} {item : α}
    (h : vecOf width encode (items ++ [item]) = .ok data) : ∃ last, encode item = .ok last ∧ last <:+ data := by
  obtain ⟨body, hbody, hvec⟩ := bind_eq_ok.1 h
  rw [List.map_append] at hbody
  obtain ⟨last, hlast, hsuffix⟩ := suffix_concatEncoded _ hbody
  exact ⟨last, hlast, hsuffix.trans (suffix_vec hvec)⟩

end Suffixes

section Cut

variable {hello : ClientHello} {extensions : List Extension} {identities : List PskIdentity} {binders : List Bytes}
  {offer raw : Bytes}

lemma suffix_encodeClientHello (hlast : hello.extensions = extensions ++ [⟨ExtensionType.preSharedKey, offer⟩])
    (h : encodeClientHello hello = .ok raw) : offer <:+ raw ∧ offer.length < raw.length := by
  obtain ⟨body, hbody, h⟩ := bind_eq_ok.1 h
  obtain ⟨block, hblock, hblockBody⟩ := suffix_concatEncoded [intToBytes tlsLegacyVersion 2, .ok hello.random,
    vec 1 hello.legacySessionId, vecOf 2 (intToBytes · 2) hello.cipherSuites, vec 1 [0]] hbody
  rw [hlast] at hblock
  obtain ⟨last, hextension, hlastBlock⟩ := suffix_vecOf hblock
  obtain ⟨content, hcontent, hcontentLast⟩ :=
    suffix_concatEncoded [intToBytes ExtensionType.preSharedKey 2] hextension
  have hsuffix : offer <:+ body := ((suffix_vec hcontent).trans hcontentLast).trans (hlastBlock.trans hblockBody)
  obtain ⟨first, others, hfirst, hothers, rfl⟩ := concatEncoded_cons_ok.1 h
  rw [concatEncoded_singleton] at hothers
  refine ⟨(hsuffix.trans (suffix_vec hothers)).trans (List.suffix_append first others), ?_⟩
  have hle := hsuffix.length_le
  rw [List.length_append, length_vec hothers]
  omega

lemma length_encodeBinders {list : Bytes} (h : encodeBinders binders = .ok list) :
    list.length = 2 + (binders.length + (binders.map List.length).sum) := by
  obtain ⟨body, hbody, hvec⟩ := bind_eq_ok.1 h
  rw [length_vec hvec]
  clear hvec h
  induction binders generalizing body with
  | nil =>
    cases hbody
    rfl
  | cons binder binders ih =>
    obtain ⟨first, others, hfirst, hothers, rfl⟩ := concatEncoded_cons_ok.1 hbody
    have hrest := ih others hothers
    rw [List.length_append, length_vec hfirst, List.length_cons, List.map_cons, List.sum_cons]
    omega

lemma exists_binders (hlast : hello.extensions = extensions ++ [⟨ExtensionType.preSharedKey, offer⟩])
    (hoffer : encodeOfferedPsks identities binders = .ok offer) (h : encodeClientHello hello = .ok raw) :
    ∃ front list, encodeBinders binders = .ok list ∧ raw = front ++ list ∧ front ≠ [] := by
  obtain ⟨hsuffix, hlength⟩ := suffix_encodeClientHello hlast h
  obtain ⟨list, hlist, hend⟩ := suffix_concatEncoded [vecOf 2 encodePskIdentity identities] hoffer
  obtain ⟨front, rfl⟩ := hend.trans hsuffix
  refine ⟨front, list, hlist, rfl, ?_⟩
  rintro rfl
  have := hend.length_le
  simp at hlength
  omega

lemma sum_lengths_binders (hlegal : ∀ binder ∈ binders, sha256Length ≤ binder.length) :
    binders.length * sha256Length ≤ (binders.map List.length).sum ∧
      ((binders.map List.length).sum = binders.length * sha256Length ↔
        ∀ binder ∈ binders, binder.length = sha256Length) := by
  induction binders with
  | nil => simp
  | cons binder binders ih =>
    obtain ⟨hbinder, hrest⟩ := List.forall_mem_cons.1 hlegal
    obtain ⟨hle, hiff⟩ := ih hrest
    rw [List.map_cons, List.sum_cons, List.length_cons, Nat.succ_mul, List.forall_mem_cons, ← hiff]
    omega

lemma binderTranscript_eq_iff {front list : Bytes} (hlist : encodeBinders binders = .ok list) (hfront : front ≠ [])
    (hlegal : ∀ binder ∈ binders, sha256Length ≤ binder.length) :
    binderTranscript (front ++ list) binders.length = .ok front ↔
      ∀ binder ∈ binders, binder.length = sha256Length := by
  have hlength := length_encodeBinders hlist
  have hpos := List.length_pos_of_ne_nil hfront
  obtain ⟨hle, hiff⟩ := sum_lengths_binders hlegal
  have htrailing : binders.length * (1 + sha256Length) = binders.length + binders.length * sha256Length := by
    rw [Nat.mul_add, Nat.mul_one]
  have hraw : (front ++ list).length = front.length + list.length := List.length_append
  rw [binderTranscript, if_neg (by omega), Except.ok.injEq, ← hiff]
  constructor
  · intro hcut
    have hcut := congrArg List.length hcut
    rw [List.length_take] at hcut
    omega
  · intro hsum
    have hcut : (front ++ list).length - (2 + binders.length * (1 + sha256Length)) = front.length := by omega
    rw [hcut, List.take_left]

end Cut

section Patch

variable (hashing : Hashing) {client client' : TlsClient} {ticket : SessionTicket}
  {hello : ClientHello} {raw : Bytes}

lemma types_plainExtensions {extensions : List Extension} (h : client.plainExtensions = .ok extensions) :
    ∀ extension ∈ extensions, extension.type ≠ ExtensionType.preSharedKey := by
  obtain ⟨_, -, h⟩ := bind_eq_ok.1 h
  obtain ⟨_, -, h⟩ := bind_eq_ok.1 h
  obtain ⟨_, -, h⟩ := bind_eq_ok.1 h
  obtain ⟨_, -, h⟩ := bind_eq_ok.1 h
  obtain ⟨_, -, h⟩ := bind_eq_ok.1 h
  cases h
  intro extension hmem
  rcases List.mem_append.1 hmem with hmem | hmem
  · have htypes : ∀ type ∈ [0, 10, 13, 16, 43, 51, 0x39, 45], type ≠ ExtensionType.preSharedKey := by decide
    exact htypes _ (List.mem_map_of_mem (f := Extension.type) hmem)
  · split_ifs at hmem
    · rw [List.mem_singleton.1 hmem]
      decide
    · cases hmem

lemma extensions_buildClientHello (hticket : client.config.sessionTicket = some ticket)
    (h : TlsClient.buildClientHello client = .ok hello client') :
    ∃ extensions offer, hello.extensions = extensions ++ [⟨ExtensionType.preSharedKey, offer⟩] ∧
      (∀ extension ∈ extensions, extension.type ≠ ExtensionType.preSharedKey) ∧
      encodeOfferedPsks
        [⟨ticket.identity, ((truncate ((client.now - ticket.receivedAt) * 1000) + ticket.ageAdd) % 2 ^ 32).toNat⟩]
        [List.replicate sha256Length 0] = .ok offer := by
  have hspec : Ensures TlsClient.buildClientHello client fun hello _ => ∃ extensions offer,
      hello.extensions = extensions ++ [⟨ExtensionType.preSharedKey, offer⟩] ∧
      (∀ extension ∈ extensions, extension.type ≠ ExtensionType.preSharedKey) ∧
      encodeOfferedPsks
        [⟨ticket.identity, ((truncate ((client.now - ticket.receivedAt) * 1000) + ticket.ageAdd) % 2 ^ 32).toNat⟩]
        [List.replicate sha256Length 0] = .ok offer := by
    simp only [TlsClient.buildClientHello, ensures_flow, implies_true, and_true]
    intro extensions hextensions offers hoffers
    simp only [TlsClient.offers, hticket] at hoffers
    obtain ⟨extension, hextension, hoffers⟩ := bind_eq_ok.1 hoffers
    obtain ⟨offer, hoffer, hextension⟩ := bind_eq_ok.1 hextension
    cases hoffers
    cases hextension
    exact ⟨extensions, offer, rfl, types_plainExtensions hextensions, hoffer⟩
  exact hspec.of_ok h

def placeholders : Bytes := [0, 33, 32] ++ List.replicate sha256Length 0

lemma encodeBinders_placeholder : encodeBinders [List.replicate sha256Length 0] = .ok placeholders := rfl

lemma fillPskBinder_eq {front : Bytes} (hfront : front ≠ []) (client : TlsClient) :
    ∃ binder, binder.length = sha256Length ∧
      TlsClient.fillPskBinder hashing (front ++ placeholders) client = .ok (front ++ [0, 33, 32] ++ binder)
        { client with schedule := client.schedule.updateTranscript (front ++ [0, 33, 32] ++ binder) } := by
  have hcut : binderTranscript (front ++ placeholders) 1 = .ok front :=
    (binderTranscript_eq_iff encodeBinders_placeholder hfront (by simp)).2 (by simp)
  have hlength : ∀ key hash, (finishedVerifyData hashing key hash).length = sha256Length :=
    fun key hash => hashing.length_hmacSha256 _ hash
  have hpatch : ∀ binder : Bytes, binder.length = sha256Length →
      (front ++ placeholders).take ((front ++ placeholders).length - binder.length) ++ binder =
        front ++ [0, 33, 32] ++ binder := by
    intro binder hbinder
    have hkeep : (front ++ placeholders).length - binder.length = (front ++ [0, 33, 32]).length := by
      simp [placeholders, hbinder]
      omega
    rw [hkeep, placeholders, ← List.append_assoc, List.take_left]
  refine ⟨finishedVerifyData hashing (client.schedule.binderKey hashing)
    (hashing.sha256 (client.schedule.transcript ++ front)), hlength _ _, ?_⟩
  apply eq_ok_of_ensures
  simp only [TlsClient.fillPskBinder, TlsClient.updateTranscript, hcut, lift_ok, ensures_state,
    hpatch _ (hlength _ _)]
  simp [KeySchedule.updateTranscript, KeySchedule.transcriptHash, KeySchedule.binderKey]

end Patch

/-- The prefix that binders are verified over is the hello without its binders exactly if each has the length of a
hash. A client's own binder is the only part of its hello that is filled in, and the transcript is that of the
hello that is sent. -/
theorem binders_cover_iff (hashing : Hashing) :
    (∀ (hello : ClientHello) extensions identities binders offer raw,
      hello.extensions = extensions ++ [⟨ExtensionType.preSharedKey, offer⟩] →
      encodeOfferedPsks identities binders = .ok offer → identities.length = binders.length → 1 ≤ binders.length →
      (∀ binder ∈ binders, 32 ≤ binder.length ∧ binder.length ≤ 255) → encodeClientHello hello = .ok raw →
      ∃ front list, raw = front ++ list ∧ encodeBinders binders = .ok list ∧
        (binderTranscript raw binders.length = .ok front ↔ ∀ binder ∈ binders, binder.length = 32)) ∧
    ∀ (client client' : TlsClient) ticket hello raw, client.config.sessionTicket = some ticket →
      TlsClient.buildClientHello client = .ok hello client' → encodeClientHello hello = .ok raw →
      ∃ front binder, raw = front ++ List.replicate 32 0 ∧ binder.length = 32 ∧
        TlsClient.fillPskBinder hashing raw client' =
          .ok (front ++ binder)
            { client' with schedule := client'.schedule.updateTranscript (front ++ binder) } := by
  constructor
  · intro hello extensions identities binders offer raw hlast hoffer _ _ hlegal hraw
    obtain ⟨front, list, hlist, rfl, hfront⟩ := exists_binders hlast hoffer hraw
    exact ⟨front, list, rfl, hlist, binderTranscript_eq_iff hlist hfront fun binder hmem => (hlegal binder hmem).1⟩
  · intro client client' ticket hello raw hticket hbuild hraw
    obtain ⟨extensions, offer, hlast, -, hoffer⟩ := extensions_buildClientHello hticket hbuild
    obtain ⟨front, list, hlist, rfl, hfront⟩ := exists_binders hlast hoffer hraw
    rw [encodeBinders_placeholder, Except.ok.injEq] at hlist
    subst hlist
    obtain ⟨binder, hbinder, hfill⟩ := fillPskBinder_eq hashing hfront client'
    refine ⟨front ++ [0, 33, 32], binder, ?_, hbinder, hfill⟩
    rw [placeholders, List.append_assoc]
    rfl

def bareTicket : SessionTicket :=
  ⟨List.replicate 40 0 ++ [0x13, 0x01, 0, 0, 0] ++ List.replicate 32 1, List.replicate 32 1, 0,
    sessionTicketLifetime, 0, maxEarlyDataSize, [], [], tlsAes128GcmSha256⟩

def resuming : TlsClient :=
  { bareClient with config := { bareConfig with sessionTicket := some bareTicket }, now := 5 }

lemma built_resuming : Ensures TlsClient.buildClientHello resuming
    (fun hello _ => (encodeClientHello hello).toOption.isSome = true) fun _ _ => False := by
  decide +kernel

def shortBinderHello : ClientHello :=
  ⟨List.replicate 32 0, [], [0x1301],
    [⟨ExtensionType.preSharedKey, [0, 7, 0, 1, 5, 0, 0, 0, 0] ++ ([0, 33, 32] ++ List.replicate 32 0)⟩]⟩

theorem binders_cover_iff_resuming :
    (∃ front list, encodeClientHello shortBinderHello = .ok (front ++ list) ∧
      encodeBinders [List.replicate 32 0] = .ok list ∧ binderTranscript (front ++ list) 1 = .ok front) ∧
    ∃ hello client front binder, TlsClient.buildClientHello resuming = .ok hello client ∧
      encodeClientHello hello = .ok (front ++ List.replicate 32 0) ∧
      TlsClient.fillPskBinder bareAsymmetric.toHashing (front ++ List.replicate 32 0) client =
        .ok (front ++ binder) { client with schedule := client.schedule.updateTranscript (front ++ binder) } := by
  obtain ⟨hcovers, hfills⟩ := binders_cover_iff bareAsymmetric.toHashing
  constructor
  · obtain ⟨front, list, hraw, hlist, hcut⟩ :=
      hcovers shortBinderHello [] [⟨[5], 0⟩] [List.replicate 32 0] _ _ rfl rfl rfl
      (le_refl 1) (by decide) rfl
    rw [hraw] at hcut
    exact ⟨front, list, congrArg Except.ok hraw, hlist, hcut.2 (by decide)⟩
  · obtain ⟨hello, client, hbuild, hencoded⟩ := exists_of_ensures built_resuming
    cases hraw : encodeClientHello hello with
    | error e => simp [hraw, Except.toOption] at hencoded
    | ok raw =>
      obtain ⟨front, binder, rfl, -, hfill⟩ := hfills resuming client bareTicket hello raw rfl hbuild hraw
      exact ⟨hello, client, front, binder, hbuild, hraw, hfill⟩

def longBinderHello : ClientHello :=
  ⟨List.replicate 32 0, [], [0x1302],
    [⟨ExtensionType.preSharedKey, [0, 7, 0, 1, 5, 0, 0, 0, 0] ++ ([0, 49, 48] ++ List.replicate 48 0)⟩]⟩

theorem long_binder_cut :
    encodeOfferedPsks [⟨[5], 0⟩] [List.replicate 48 0] =
      .ok ([0, 7, 0, 1, 5, 0, 0, 0, 0] ++ ([0, 49, 48] ++ List.replicate 48 0)) ∧
    ∃ front, encodeClientHello longBinderHello = .ok (front ++ ([0, 49, 48] ++ List.replicate 48 0)) ∧
      encodeBinders [List.replicate 48 0] = .ok ([0, 49, 48] ++ List.replicate 48 0) ∧
      binderTranscript (front ++ ([0, 49, 48] ++ List.replicate 48 0)) 1 =
        .ok (front ++ ([0, 49, 48] ++ List.replicate 13 0)) := by
  refine ⟨rfl, [1, 0, 0, 107, 3, 3] ++ List.replicate 32 0 ++
    [0, 0, 2, 0x13, 0x02, 1, 0, 0, 64, 0, 41, 0, 60, 0, 7, 0, 1, 5, 0, 0, 0, 0], ?_, rfl, ?_⟩
  · decide +kernel
  · decide +kernel

end Dsquic.Tls
