import Dsquic.Connection.Plain
import Dsquic.Connection.Run

/-!
How the two sides learn each other's connection IDs, and what the transport parameters that they agree to
say of them.
-/

namespace Dsquic.Connection

open Lib Wire

def Note.isNaming : Note → Bool
  | .adopted _ _ | .retried _ _ _ | .agreed _ _ _ => true
  | _ => false

structure Ids where
  isClient : Bool
  retry : Option RetryContext
  lax : Bool
  retrying : Bool
  initialDcid : Bytes
  peerCid : Bytes
  peerCidConfirmed : Bool
  retryToken : Bytes
  retrySourceCid : Option Bytes
  hasTls : Bool
  named : List Note

def Core.ids (s : Core) : Ids where
  isClient := s.isClient
  retry := s.config.retry
  lax := s.caller.lax
  retrying := s.caller.retrying
  initialDcid := s.initialDcid
  peerCid := s.peerCid
  peerCidConfirmed := s.peerCidConfirmed
  retryToken := s.retryToken
  retrySourceCid := s.retrySourceCid
  hasTls := s.hasTls
  named := s.trace.filter Note.isNaming

lemma Core.mem_named {s : Core} {note : Note} (hnote : note.isNaming = true) :
    note ∈ s.ids.named ↔ note ∈ s.trace := by
  simp [Core.ids, hnote]

lemma Core.ids_close (s : Core) (frame : ConnectionClose) : (s.close frame).ids = s.ids := by
  simp only [Core.close]
  split_ifs <;> rfl

structure Ids.Agreed (i : Ids) (extension : Bytes) (peer : TransportParameters) (source : Bytes) : Prop where
  confirmed : i.peerCidConfirmed = true
  decoded : TransportParameters.decode extension = .ok peer
  heard : source = i.peerCid
  source : peer.initialSourceConnectionId ≠ none → peer.initialSourceConnectionId = some i.peerCid
  original : peer.originalDestinationConnectionId ≠ none →
    peer.originalDestinationConnectionId = some i.initialDcid
  retry : peer.retrySourceConnectionId = i.retrySourceCid

structure Ids.Client (dcid : Bytes) (i : Ids) : Prop where
  isClient : i.isClient = true
  strict : i.lax = false
  initialDcid : i.initialDcid = dcid
  aimed : i.peerCidConfirmed = false → i.retryToken = [] → i.peerCid = dcid
  unretried : i.retryToken = [] → i.retrySourceCid = i.retry.map (·.sourceCid)
  retried : ∀ data packet queued, .retried data packet queued ∈ i.named →
    i.retryToken ≠ [] ∧ i.retrySourceCid = some packet.sourceCid
  answered : i.retryToken ≠ [] → i.retrying = true ∨ ∃ data packet queued, .retried data packet queued ∈ i.named
  agreed : ∀ extension peer source, .agreed extension peer source ∈ i.named → i.Agreed extension peer source

structure Ids.Adopted (i : Ids) (dcid scid : Bytes) : Prop where
  noted : ∀ dcid' scid', .adopted dcid' scid' ∈ i.named ↔ dcid' = dcid ∧ scid' = scid
  kept : scid ≠ [] → i.peerCid = scid
  agreed : ∀ extension peer source, .agreed extension peer source ∈ i.named →
    TransportParameters.decode extension = .ok peer ∧
    (peer.initialSourceConnectionId ≠ none → peer.initialSourceConnectionId = some source) ∧
    (scid ≠ [] → source = scid)

structure Ids.Server (i : Ids) : Prop where
  isClient : i.isClient = false
  strict : i.lax = false
  fresh : i.hasTls = false → i.peerCid = [] ∧ i.named = []
  adopted : i.hasTls = true → ∃ dcid scid, i.Adopted dcid scid

namespace Ids

variable {s s' : Core} {dcid scid : Bytes}

lemma Client.not_agreed (h : s.ids.Client dcid) (hunheard : s.peerCidConfirmed = false) {extension : Bytes}
    {peer : TransportParameters} {source : Bytes} : .agreed extension peer source ∉ s.ids.named := by
  intro hagreed
  have hconfirmed := (h.agreed extension peer source hagreed).confirmed
  exact absurd (hunheard.symm.trans hconfirmed) (by decide)

lemma Client.effect (h : s.ids.Client dcid) (heffect : Effect s s') : s'.ids.Client dcid := by
  cases heffect with
  | address cid hcid hclient hunheard =>
    exact { h with
      aimed := Bool.noConfusion
      agreed := fun _ _ _ hagreed => absurd hagreed (h.not_agreed hunheard) }
  | learn cid hcid hserver | aim dcid hserver | adopt dcid scid hscid hserver =>
    exact absurd (h.isClient.symm.trans hserver) (by decide)
  | retry packet hcid hclient hunheard hfirst htoken =>
    exact { h with
      aimed := fun _ hempty => absurd hempty htoken
      unretried := fun hempty => absurd hempty htoken
      retried := fun data other queued hretried => absurd hfirst (h.retried data other queued hretried).1
      answered := fun _ => .inl rfl
      agreed := fun _ _ _ hagreed => absurd hagreed (h.not_agreed hunheard) }
  | retried data packet retrying hretries =>
    have hretries := hretries h.strict
    have htoken : s.retryToken ≠ [] := hretries.token ▸ hretries.nonempty
    refine { h with
      retried := fun data' packet' queued' hretried => ?_
      answered := fun _ => .inr ⟨_, _, _, List.mem_cons_self⟩
      agreed := fun extension peer source hagreed => ?_ }
    · rcases List.mem_cons.1 hretried with heq | hretried
      · cases heq
        exact ⟨htoken, hretries.source⟩
      · exact h.retried data' packet' queued' hretried
    · exact { h.agreed extension peer source ((List.mem_cons.1 hagreed).resolve_left Note.noConfusion) with }
  | agree extension peer hheard hdecoded hagrees htls =>
    have hconfirmed : s.peerCidConfirmed = true := by
      rcases hheard with hlax | hheard
      · exact absurd (h.strict.symm.trans hlax) (by decide)
      · exact hheard h.isClient
    refine { h with
      retried := fun data packet queued hretried => ?_
      answered := fun htoken => (h.answered htoken).imp_right fun ⟨data, packet, queued, hretried⟩ =>
        ⟨data, packet, queued, List.mem_cons_of_mem _ hretried⟩
      agreed := fun extension' peer' source' hagreed => ?_ }
    · exact h.retried data packet queued ((List.mem_cons.1 hretried).resolve_left Note.noConfusion)
    · rcases List.mem_cons.1 hagreed with heq | hagreed
      · cases heq
        exact ⟨hconfirmed, hdecoded, rfl, hagrees.source, hagrees.original h.isClient, hagrees.retry h.isClient⟩
      · exact { h.agreed extension' peer' source' hagreed with }
  | close frame => exact s.ids_close frame ▸ h
  | abort frame errorCode reason => exact ((s.note (.aborted s.state)).ids_close frame).symm ▸ h
  | _ => exact h

lemma Adopted.note {i : Ids} (h : i.Adopted dcid scid) {note : Note}
    (hnote : ∀ dcid' scid', note ≠ .adopted dcid' scid')
    (hagreed : ∀ extension peer source, note = .agreed extension peer source →
      TransportParameters.decode extension = .ok peer ∧
      (peer.initialSourceConnectionId ≠ none → peer.initialSourceConnectionId = some source) ∧
      (scid ≠ [] → source = scid)) : { i with named := note :: i.named }.Adopted dcid scid where
  noted dcid' scid' := by
    rw [← h.noted]
    exact List.mem_cons.trans (or_iff_right fun heq => hnote dcid' scid' heq.symm)
  kept := h.kept
  agreed extension peer source hmem := by
    rcases List.mem_cons.1 hmem with heq | hmem
    · exact hagreed extension peer source heq.symm
    · exact h.agreed extension peer source hmem

lemma Server.effect (h : s.ids.Server) (heffect : Effect s s') : s'.ids.Server := by
  cases heffect with
  | address cid hcid hclient | install hclient | retry packet hcid hclient =>
    exact absurd (hclient.symm.trans h.isClient) (by decide)
  | retried data packet retrying hretries =>
    exact absurd ((hretries h.strict).isClient.symm.trans h.isClient) (by decide)
  | aim dcid hserver htls =>
    exact { h with adopted := fun hsome => absurd (htls.symm.trans hsome) (by decide) }
  | learn cid hcid hserver htls hnew =>
    refine { h with
      fresh := fun hnone => absurd (htls.symm.trans hnone) (by decide)
      adopted := fun _ => ?_ }
    obtain ⟨dcid, scid, hadopted⟩ := h.adopted htls
    exact ⟨dcid, scid, { hadopted with kept := fun hscid => absurd ((hadopted.kept hscid).symm.trans hnew) hscid }⟩
  | adopt dcid scid hscid hserver htls =>
    obtain ⟨hpeer, hnamed⟩ := h.fresh htls
    have hnamed : s.trace.filter Note.isNaming = [] := hnamed
    refine { h with
      fresh := Bool.noConfusion
      adopted := fun _ => ⟨dcid, scid, ?_, fun _ => if_pos hpeer, ?_⟩ }
    · intro dcid' scid'
      show Note.adopted dcid' scid' ∈ .adopted dcid scid :: s.trace.filter Note.isNaming ↔ _
      simp [hnamed]
    · intro extension peer source hagreed
      have hagreed : .agreed extension peer source ∈ .adopted dcid scid :: s.trace.filter Note.isNaming := hagreed
      simp [hnamed] at hagreed
  | agree extension peer hheard hdecoded hagrees htls =>
    refine { h with
      fresh := fun hnone => absurd (htls.symm.trans hnone) (by decide)
      adopted := fun _ => ?_ }
    obtain ⟨dcid, scid, hadopted⟩ := h.adopted htls
    refine ⟨dcid, scid, hadopted.note (fun _ _ => Note.noConfusion) fun _ _ _ heq => ?_⟩
    cases heq
    exact ⟨hdecoded, hagrees.source, hadopted.kept⟩
  | close frame => exact s.ids_close frame ▸ h
  | abort frame errorCode reason => exact ((s.note (.aborted s.state)).ids_close frame).symm ▸ h
  | _ => exact h

end Ids

namespace Core

variable {s s' : Core}

def Settled (s : Core) : Prop := s.state = .connected →
  ∃ extension peer source, .agreed extension peer source ∈ s.trace

lemma Settled.mono (h : s.Settled) (hstate : s'.state = .connected → s.state = .connected)
    (htrace : s.trace ⊆ s'.trace) : s'.Settled := by
  intro hconnected
  obtain ⟨extension, peer, source, hagreed⟩ := h (hstate hconnected)
  exact ⟨extension, peer, source, htrace hagreed⟩

lemma state_close (frame : ConnectionClose) (h : (s.close frame).state = .connected) : s.state = .connected := by
  simp only [close] at h
  split_ifs at h
  exact h

lemma Settled.effect (h : s.Settled) (heffect : Effect s s') : s'.Settled := by
  have htrace := heffect.trace_subset
  cases heffect with
  | complete alpn hlive hdone hagreed =>
    obtain ⟨extension, peer, source, hagreed⟩ := hagreed
    exact fun _ => ⟨extension, peer, source, htrace hagreed⟩
  | drain | processClose | negotiate | expire | terminate => exact fun hconnected => by cases hconnected
  | close frame => exact h.mono (state_close frame) htrace
  | abort frame errorCode reason => exact h.mono (state_close (s := s.note (.aborted s.state)) frame) htrace
  | _ => exact h.mono id htrace

end Core

section Connected

variable {env : Env} {c : Conn env} {caller : Caller}

lemma Core.client_initial (prims : Primitives) (config : Config) (hostCid peerCid : Bytes) :
    (Core.initial prims true config hostCid peerCid).ids.Client peerCid := by
  refine ⟨rfl, rfl, rfl, fun _ _ => rfl, fun _ => rfl, ?_, fun htoken => absurd rfl htoken, ?_⟩
  · exact fun _ _ _ hmem => absurd hmem List.not_mem_nil
  · exact fun _ _ _ hmem => absurd hmem List.not_mem_nil

lemma Begins.client_ids (h : Begins c) (hclient : c.isClient = true) :
    (c.core .new []).ids.Client c.initialDcid := by
  obtain ⟨isClient, config, hostCid, peerCid, -, -, hpath⟩ := h.path
  obtain rfl : c.isClient = isClient := hpath.same.isClient
  rw [hclient] at hpath
  have hbegun := hpath.invariant (P := fun s => s.ids.Client peerCid) (fun _ _ heffect hs => hs.effect heffect)
    (Core.client_initial _ _ _ _)
  have hdcid : c.initialDcid = peerCid := hbegun.initialDcid
  exact hdcid ▸ hbegun

lemma Begins.server_ids (h : Begins c) (hserver : c.isClient = false) : (c.core .new []).ids.Server := by
  obtain ⟨isClient, config, hostCid, peerCid, -, ⟨-, hpeer⟩, hpath⟩ := h.path
  obtain rfl : c.isClient = isClient := hpath.same.isClient
  apply hpath.invariant (P := fun s => s.ids.Server) fun _ _ heffect hs => hs.effect heffect
  exact ⟨hserver, rfl, fun _ => ⟨hpeer hserver, rfl⟩, fun htls => absurd (hserver.symm.trans htls) (by decide)⟩

/-- The parameters of a server name the ID that its client first called it by, the one it answered by, and
that of its Retry, should the client have taken one up. -/
structure Authentic (c c' : Conn env) (peer : TransportParameters) : Prop where
  original : peer.originalDestinationConnectionId = some c.initialDcid
  source : peer.initialSourceConnectionId = some c'.peerCid
  retried : ∀ data packet queued, .retried data packet queued ∈ c'.trace →
    peer.retrySourceConnectionId = some packet.sourceCid
  unretried : (∀ data packet queued, .retried data packet queued ∉ c'.trace) → peer.retrySourceConnectionId = none

lemma retrySourceCid_of_client {dcid : Bytes} (h : (c.core caller []).ids.Client dcid)
    (hanswered : caller.retrying = false)
    (hnone : ∀ data packet queued, .retried data packet queued ∉ c.trace) :
    c.retrySourceCid = c.config.retry.map (·.sourceCid) := by
  apply h.unretried
  by_contra htoken
  rcases h.answered htoken with hretrying | ⟨data, packet, queued, hretried⟩
  · exact absurd (hanswered.symm.trans hretrying) (by decide)
  · exact hnone data packet queued ((Core.mem_named rfl).1 hretried)

lemma authentic_iff {c' : Conn env} (h : (c'.core caller []).ids.Client c.initialDcid)
    (hanswered : caller.retrying = false) {extension : Bytes} {peer : TransportParameters} {source : Bytes}
    (hagreed : (c'.core caller []).ids.Agreed extension peer source) :
    Authentic c c' peer ↔ peer.originalDestinationConnectionId ≠ none ∧ peer.initialSourceConnectionId ≠ none ∧
      ((∀ data packet queued, .retried data packet queued ∉ c'.trace) → c'.config.retry = none) := by
  have hretry : peer.retrySourceConnectionId = c'.retrySourceCid := hagreed.retry
  constructor
  · intro hauthentic
    refine ⟨?_, ?_, fun hnone => ?_⟩
    · rw [hauthentic.original]
      exact Option.some_ne_none _
    · rw [hauthentic.source]
      exact Option.some_ne_none _
    · have hmap := (hretry.trans (retrySourceCid_of_client h hanswered hnone)).symm.trans
        (hauthentic.unretried hnone)
      exact Option.map_eq_none_iff.1 hmap
  · rintro ⟨horiginal, hsource, hconfig⟩
    refine ⟨?_, hagreed.source hsource, fun data packet queued hretried => ?_, fun hnone => ?_⟩
    · exact (hagreed.original horiginal).trans (congrArg some h.initialDcid)
    · exact hretry.trans (h.retried data packet queued ((Core.mem_named rfl).2 hretried)).2
    · rw [hretry, retrySourceCid_of_client h hanswered hnone, hconfig hnone]
      rfl

/-- A connection that is up has agreed to parameters of its peer. Those of a server are authentic exactly if
they name both IDs, and the client was not configured to expect a Retry that did not come; those of a client
name the ID of its first Initial exactly if they name one, and the server has taken up no other since. -/
theorem connected_authentic_iff (h : Begins c) (ops : List (Op env))
    (hconnected : ((Session.start c).run ops).conn.state = .connected) :
    (∃ extension peer source, .agreed extension peer source ∈ ((Session.start c).run ops).conn.trace) ∧
    (c.isClient = true → ∀ before : List (Op env), ((Session.start c).run before).conn.peerCidConfirmed = false →
      ((Session.start c).run before).conn.retryToken = [] →
      ((Session.start c).run before).conn.peerCid = c.initialDcid) ∧
    ∀ extension peer source, .agreed extension peer source ∈ ((Session.start c).run ops).conn.trace →
      TransportParameters.decode extension = .ok peer ∧
      (c.isClient = true → ((Session.start c).run ops).conn.peerCidConfirmed = true ∧
        (Authentic c ((Session.start c).run ops).conn peer ↔
          peer.originalDestinationConnectionId ≠ none ∧ peer.initialSourceConnectionId ≠ none ∧
          ((∀ data packet queued, .retried data packet queued ∉ ((Session.start c).run ops).conn.trace) →
            c.config.retry = none))) ∧
      (c.isClient = false → ∃ dcid scid,
        (∀ dcid' scid', .adopted dcid' scid' ∈ ((Session.start c).run ops).conn.trace ↔ dcid' = dcid ∧
          scid' = scid) ∧
        (peer.initialSourceConnectionId = some scid ↔ peer.initialSourceConnectionId ≠ none ∧ source = scid) ∧
        (scid ≠ [] → source = scid)) := by
  obtain ⟨intact, hpath, -⟩ := Session.onward h ops
  refine ⟨?_, fun hclient before hunheard hfirst => ?_, fun extension peer source hagreed => ?_⟩
  · obtain ⟨isClient, config, hostCid, peerCid, _, -, -, hreached, -⟩ := Session.reached h ops
    exact hreached.invariant (P := Core.Settled) (fun _ _ heffect hs => hs.effect heffect)
      (fun hstate => by cases hstate) hconnected
  · obtain ⟨_, hbefore, -⟩ := Session.onward h before
    have hids :=
      hbefore.invariant (P := fun s => s.ids.Client c.initialDcid) (fun _ _ heffect hs => hs.effect heffect)
      (h.client_ids hclient)
    exact hids.aimed hunheard hfirst
  · cases hrole : c.isClient with
    | true =>
      have hids :=
        hpath.invariant (P := fun s => s.ids.Client c.initialDcid) (fun _ _ heffect hs => hs.effect heffect)
        (h.client_ids hrole)
      have hnamed := hids.agreed extension peer source ((Core.mem_named rfl).2 hagreed)
      refine ⟨hnamed.decoded, fun _ => ⟨hnamed.confirmed, ?_⟩, Bool.noConfusion⟩
      have hconfig : ((Session.start c).run ops).conn.config = c.config := hpath.same.config
      rw [← hconfig]
      exact authentic_iff hids rfl hnamed
    | false =>
      have hids := hpath.invariant (P := fun s => s.ids.Server) (fun _ _ heffect hs => hs.effect heffect)
        (h.server_ids hrole)
      have hmem := (Core.mem_named (s := ((Session.start c).run ops).core intact) rfl).2 hagreed
      have htls : (((Session.start c).run ops).core intact).hasTls = true := by
        by_contra hnone
        have hempty := (hids.fresh (Bool.eq_false_iff.2 hnone)).2
        rw [hempty] at hmem
        exact absurd hmem List.not_mem_nil
      obtain ⟨dcid, scid, hadopted⟩ := hids.adopted htls
      obtain ⟨hdecoded, hsource, hkept⟩ := hadopted.agreed extension peer source hmem
      refine ⟨hdecoded, Bool.noConfusion,
        fun _ => ⟨dcid, scid, fun dcid' scid' => ?_, ⟨fun hscid => ?_, ?_⟩, hkept⟩⟩
      · exact (Core.mem_named rfl).symm.trans (hadopted.noted dcid' scid')
      · have hsome : peer.initialSourceConnectionId ≠ none := by simp [hscid]
        exact ⟨hsome, Option.some.inj ((hsource hsome).symm.trans hscid)⟩
      · rintro ⟨hsome, rfl⟩
        exact hsource hsome

end Connected

def Note.isAnonymous : Note → Bool
  | .agreed _ peer _ => peer.originalDestinationConnectionId.isNone && peer.initialSourceConnectionId.isNone
  | _ => false

def serverAnswer : Op .plain :=
  .datagramReceived (plainPacket .initial (List.replicate 8 2) (List.replicate 8 9) 0 [.crypto ⟨0, [3, 4, 1]⟩]) 0
    none 0

theorem plain_connected_authentic :
    ∃ extension peer source, .agreed extension peer source ∈
      ((Session.start (plainClient .default none)).run [serverAnswer]).conn.trace :=
  (connected_authentic_iff (begins_plainClient .default none) [serverAnswer] (by decide +kernel)).1

theorem plain_connects_anonymous :
    ((Session.start (plainClient .default none)).run [serverAnswer]).conn.state = .connected ∧
    ((Session.start (plainClient .default none)).run [serverAnswer]).conn.trace.any Note.isAnonymous = true ∧
    ((Session.start (plainServer .default)).run [.datagramReceived plainHandshake 0 none 0]).conn.state =
      .connected ∧
    ((Session.start (plainServer .default)).run [.datagramReceived plainHandshake 0 none 0]).conn.trace.any
      Note.isAnonymous = true := by
  decide +kernel

end Dsquic.Connection
