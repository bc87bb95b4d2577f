import Dsquic.Connection.Identity
import Dsquic.Connection.InitialDatagrams
import Dsquic.Connection.Nonces

/-!
The one Retry that a client takes up: what came before it, and what the client sends from then on.
-/

namespace Dsquic.Connection

open Lib Wire Streams Recovery

namespace Core

variable {s s' : Core}

inductive Speaks (s s' : Core) : Prop
  | quiet (h : s'.trace.filter Note.isOutward = s.trace.filter Note.isOutward)
  | sealed (level : Level) (keys : PacketKeys) (number : ℕ) (frames : List Frame)
      (h : s'.trace = .sealed level keys number frames :: s.trace)
      (hkeys : level = .oneRtt ∨ (s.queues level).sendKeys = some keys)
  | retried (data : Bytes) (packet : Primitives.Retry)
      (h : s'.trace = .retried data packet (s.queues .initial).cryptoRetransmit :: s.trace)
      (hretries : s.caller.lax = false → s.Retries data packet)

lemma outward_close (frame : ConnectionClose) :
    (s.close frame).trace.filter Note.isOutward = s.trace.filter Note.isOutward := by
  simp only [close]
  split_ifs <;> rfl

lemma speaks (heffect : Effect s s') : Speaks s s' := by
  cases heffect with
  | close frame => exact .quiet (outward_close frame)
  | abort frame errorCode reason => exact .quiet (outward_close (s := s.note (.aborted s.state)) frame)
  | protect level keys frames hdiscarded hframes hkeys => exact .sealed _ _ _ _ rfl hkeys
  | send keys packet hdiscarded hnumber hheld hsize hkeys => exact .sealed _ _ _ _ rfl hkeys
  | retried data packet retrying hretries => exact .retried data packet rfl hretries
  | _ => exact .quiet rfl

lemma retryToken_effect (heffect : Effect s s') (h : s.retryToken ≠ []) :
    s'.retryToken = s.retryToken ∧ s'.retrySourceCid = s.retrySourceCid := by
  cases heffect with
  | retry packet hcid hclient hunheard hfirst => exact absurd hfirst h
  | close frame =>
    simp only [close]
    split_ifs <;> exact ⟨rfl, rfl⟩
  | abort frame errorCode reason =>
    simp only [close]
    split_ifs <;> exact ⟨rfl, rfl⟩
  | _ => exact ⟨rfl, rfl⟩

lemma retryToken_path (hpath : Path s s') (h : s.retryToken ≠ []) : s'.retryToken = s.retryToken :=
  hpath.invariant (P := fun t => t.retryToken = s.retryToken)
    (fun _ _ heffect ht => (retryToken_effect heffect (ht ▸ h)).1.trans ht) rfl

def Rekeyed (s : Core) : Prop := s.retryToken ≠ [] → ∀ source, s.retrySourceCid = some source →
  ∀ keys, (s.queues .initial).sendKeys = some keys → keys = s.prims.initialKeys true source

lemma Rekeyed.of_eq (h : s.Rekeyed) (htoken : s'.retryToken = s.retryToken)
    (hsource : s'.retrySourceCid = s.retrySourceCid) (hprims : s'.prims = s.prims)
    (hkeys : ∀ keys, (s'.queues .initial).sendKeys = some keys → (s.queues .initial).sendKeys = some keys) :
    s'.Rekeyed := by
  intro htaken source hnamed keys hsend
  rw [hprims]
  exact h (htoken ▸ htaken) source (hsource ▸ hnamed) keys (hkeys keys hsend)

lemma Rekeyed.close (h : s.Rekeyed) (frame : ConnectionClose) : (s.close frame).Rekeyed := by
  simp only [Core.close]
  split_ifs <;> exact h

lemma Rekeyed.effect (h : s.Rekeyed) (hclient : s.isClient = true) (heffect : Effect s s') : s'.Rekeyed := by
  cases heffect with
  | retry packet =>
    intro _ source hnamed keys hsend
    cases hnamed
    simp only [install, onQueue, onInbox, Function.update_self, Option.some.injEq] at hsend
    rw [← hsend, hclient]
    rfl
  | install hclient hfirst => exact fun htaken => absurd hfirst htaken
  | adopt dcid scid hscid hserver => exact absurd (hclient.symm.trans hserver) (by decide)
  | sendKey level keys hlevel =>
    refine h.of_eq rfl rfl rfl fun keys hsend => ?_
    simpa [onQueue, hlevel.symm] using hsend
  | rotate keys next send hnext =>
    refine h.of_eq rfl rfl rfl fun keys hsend => ?_
    simpa [onQueue, onInbox, note] using hsend
  | discard level =>
    refine h.of_eq rfl rfl rfl fun keys hsend => ?_
    by_cases hlevel : Level.initial = level
    · subst hlevel
      simp [onQueue, onInbox, note] at hsend
    · simpa [onQueue, onInbox, note, hlevel] using hsend
  | confirm | emit | requeueCrypto | resendCrypto | sendCrypto | takeNumber | protect | send | sync =>
    exact h.of_eq rfl rfl rfl fun keys hsend => (sendKeys_update (by rfl) .initial).symm.trans hsend
  | close frame => exact h.close frame
  | abort frame errorCode reason =>
    have hnote : (s.note (.aborted s.state)).Rekeyed := h
    exact hnote.close frame
  | _ => exact h

structure Answered (s origin : Core) (newer older : List Note) (data : Bytes) (packet : Primitives.Retry)
    (queued : List Crypto) : Prop where
  token : s.retryToken = packet.token
  nonempty : packet.token ≠ []
  source : s.retrySourceCid = some packet.sourceCid
  only : ∀ data' packet' queued', .retried data' packet' queued' ∉ newer ++ older
  verified : s.prims.parseRetry data origin.initialDcid = .ok packet
  unheard : ∃ t, Path origin t ∧ Path t s ∧ t.trace = older ∧ t.caller.lax = false ∧ t.isClient = true ∧
    t.peerCidConfirmed = false
  keys : ∀ keys number frames, .sealed .initial keys number frames ∈ newer →
    keys = s.prims.initialKeys true packet.sourceCid
  requeued : ∀ keys number frames crypto, .sealed .initial keys number frames ∈ older →
    .crypto crypto ∈ frames → crypto ∈ queued

structure Answering (s origin : Core) : Prop where
  ids : s.ids.Client origin.initialDcid
  reached : Path origin s
  rekeyed : s.Rekeyed
  answered : ∀ newer older data packet queued, s.trace = newer ++ .retried data packet queued :: older →
    s.Answered origin newer older data packet queued

variable {origin : Core} {newer older : List Note} {data : Bytes} {packet : Primitives.Retry}
  {queued : List Crypto}

lemma Answered.later (h : s.Answered origin newer older data packet queued) (heffect : Effect s s')
    {added : List Note} (hprims : s'.prims = s.prims)
    (hretried : ∀ data packet queued, .retried data packet queued ∉ added)
    (hkeys : ∀ keys number frames, .sealed .initial keys number frames ∈ added →
      keys = s.prims.initialKeys true packet.sourceCid) :
    s'.Answered origin (added ++ newer) older data packet queued := by
  obtain ⟨htoken, hsource⟩ := retryToken_effect heffect (h.token ▸ h.nonempty)
  refine ⟨htoken.trans h.token, h.nonempty, hsource.trans h.source, fun data' packet' queued' hmem => ?_,
    hprims ▸ h.verified, ?_, fun keys number frames hmem => ?_, h.requeued⟩
  · rw [List.append_assoc] at hmem
    exact (List.mem_append.1 hmem).elim (hretried data' packet' queued') (h.only data' packet' queued')
  · obtain ⟨t, horigin, hpath, hrest⟩ := h.unheard
    exact ⟨t, horigin, hpath.tail heffect, hrest⟩
  · rw [hprims]
    exact (List.mem_append.1 hmem).elim (hkeys keys number frames) (h.keys keys number frames)

lemma split_of_grown {added trace : List Note} {note : Note} (hnote : note ∉ added)
    (h : added ++ trace = newer ++ note :: older) : ∃ rest, newer = added ++ rest ∧
    trace = rest ++ note :: older := by
  rcases List.append_eq_append_iff.1 h with ⟨rest, hnewer, htrace⟩ | ⟨rest, hadded, htrace⟩
  · exact ⟨rest, hnewer, htrace⟩
  · cases rest with
    | nil => exact ⟨[], by simpa using hadded.symm, by simpa using htrace.symm⟩
    | cons first rest =>
      obtain ⟨rfl, -⟩ := List.cons.inj htrace
      exact absurd (hadded ▸ List.mem_append_right _ List.mem_cons_self) hnote

lemma Answering.retry (h : s.Answering origin) (hretries : s.Retries data packet) :
    ∀ newer older data' packet' queued,
      Note.retried data packet (s.queues .initial).cryptoRetransmit :: s.trace =
        newer ++ .retried data' packet' queued :: older →
      s.Answered origin newer older data' packet' queued := by
  intro newer older data' packet' queued htrace
  cases newer with
  | cons note newer =>
    -- there was none before
    obtain ⟨-, htrace⟩ := List.cons.inj htrace
    exact absurd (htrace ▸ List.mem_append_right _ List.mem_cons_self) (hretries.first data' packet' queued)
  | nil =>
    obtain ⟨hnote, rfl⟩ := List.cons.inj htrace
    obtain ⟨rfl, rfl, rfl⟩ := Note.retried.inj hnote
    refine ⟨hretries.token, hretries.nonempty, hretries.source, hretries.first, ?_,
      ⟨s, h.reached, .refl, rfl, h.ids.strict, hretries.isClient, hretries.unheard⟩,
      fun _ _ _ hmem => absurd hmem List.not_mem_nil, fun keys number frames crypto hsealed hcrypto => ?_⟩
    · rw [← show s.initialDcid = origin.initialDcid from h.ids.initialDcid]
      exact hretries.verified
    · exact hretries.queued crypto ⟨keys, number, frames, hsealed, hcrypto⟩

lemma Answering.effect (h : s.Answering origin) (heffect : Effect s s') : s'.Answering origin := by
  have hprims : s'.prims = s.prims := heffect.path.same.prims
  refine ⟨h.ids.effect heffect, h.reached.tail heffect, h.rekeyed.effect h.ids.isClient heffect, ?_⟩
  intro newer older data packet queued htrace
  cases speaks heffect with
  | quiet hfilter =>
    obtain ⟨added, hadded⟩ := heffect.trace_suffix
    have hsilent : ∀ note ∈ added, note.isOutward = false := by
      rw [← hadded, List.filter_append, List.append_left_eq_self, List.filter_eq_nil_iff] at hfilter
      exact fun note hmem => Bool.eq_false_iff.2 (hfilter note hmem)
    have hretried : ∀ data packet queued, .retried data packet queued ∉ added := fun data packet queued hmem =>
      absurd (hsilent _ hmem) (by simp [Note.isOutward])
    rw [← hadded] at htrace
    obtain ⟨rest, rfl, hrest⟩ := split_of_grown (hretried data packet queued) htrace
    exact (h.answered rest older data packet queued hrest).later heffect hprims hretried fun _ _ _ hmem =>
      absurd (hsilent _ hmem) (by simp [Note.isOutward])
  | sealed level keys number frames htrace' hkeys =>
    rw [htrace', ← List.singleton_append] at htrace
    obtain ⟨rest, rfl, hrest⟩ := split_of_grown (by simp) htrace
    have hanswered := h.answered rest older data packet queued hrest
    refine hanswered.later heffect hprims (by simp) fun keys' number' frames' hmem => ?_
    obtain ⟨rfl, rfl, -, -⟩ := Note.sealed.inj (List.mem_singleton.1 hmem)
    exact h.rekeyed (hanswered.token ▸ hanswered.nonempty) _ hanswered.source _ (hkeys.resolve_left (by decide))
  | retried data' packet' htrace' hretries =>
    have hretries := hretries h.ids.strict
    have htoken : s.retryToken ≠ [] := hretries.token ▸ hretries.nonempty
    rw [htrace'] at htrace
    have hanswered := h.retry hretries newer older data packet queued htrace
    obtain ⟨hkept, hsource⟩ := retryToken_effect heffect htoken
    obtain ⟨t, horigin, hpath, hrest⟩ := hanswered.unheard
    exact { hanswered with
      token := hkept.trans hanswered.token
      source := hsource.trans hanswered.source
      verified := hprims ▸ hanswered.verified
      unheard := ⟨t, horigin, hpath.tail heffect, hrest⟩
      keys := hprims ▸ hanswered.keys }

end Core

section Token

variable {env : Env} {c : Conn env} {token : Bytes} {now : ℚ} {packet : Bytes} {padTo : ℕ}

def Bears (env : Env) (token packet : Bytes) : Prop :=
  ∃ (template : LongHeaderTemplate) (keys : PacketKeys) (header payload : Bytes) (number length : ℕ),
    template.packetType = .initial ∧ template.token = token ∧
    buildLongHeader template (payload.length + aeadTagLength) number length = .ok header ∧
    env.protect keys header payload number = .ok packet

lemma Conn.Seals.bears (h : c.Seals .initial false padTo packet)
    (htoken : c.retryToken = token) (hne : token ≠ []) : Bears env token packet := by
  obtain ⟨keys, payload, pnBytes, header, padded, number, hpn, hframed, hpacket⟩ := h
  obtain ⟨expanded, -, hframed⟩ := bind_eq_ok.1 hframed
  obtain ⟨built, hbuilt, hframed⟩ := bind_eq_ok.1 hframed
  cases hframed
  refine ⟨c.headerTemplate .initial, keys, header, padded, number, pnBytes.length, rfl, ?_, hbuilt, hpacket⟩
  simp [Conn.headerTemplate, htoken, hne]

lemma Conn.Packs.bears (h : c.Packs .initial false padTo packet)
    (htoken : c.retryToken = token) (hne : token ≠ []) : Bears env token packet := by
  obtain ⟨c₁, houtline, -, -, hseals⟩ := h
  have hkept : c₁.retryToken = c.retryToken := congrArg Outline.retryToken houtline
  exact hseals.bears (hkept.trans htoken) hne

lemma datagramsToSend_bears (rounds : ℕ) (hpending : Session.totalLength c.pending = 0)
    (htoken : c.retryToken = token)
    (hne : token ≠ []) :
    Ensures (datagramsToSend now rounds) c
      fun datagrams _ => ∀ d ∈ datagrams, opensInitial d.data = true → Bears env token d.data := by
  refine datagramsToSend_each (P := fun c => c.retryToken = token)
    (G := fun data => opensInitial data = true → Bears env token data) (fun c c' htoken hpath => ?_)
    (fun c ackOnly htoken => buildDatagram_packs fun packet _ _ _ hpacks => hpacks.bears htoken hne)
    (fun level keys packet _ _ hseals hopens => ?_) (fun hopens => absurd hopens (by decide)) hpending htoken
  · exact (Core.retryToken_path hpath fun hempty => hne (htoken.symm.trans hempty)).trans htoken
  · by_cases hlevel : level = .initial
    · subst hlevel
      exact hseals.bears htoken hne
    · have hclosed := hseals.opensInitial hlevel []
      rw [List.append_nil, hopens] at hclosed
      cases hclosed

end Token

section Run

variable {env : Env} {c c' : Conn env}

lemma handleRetry_noted (data : Bytes) (c : Conn env) : finalState (handleRetry data) c = c ∨
    ∃ packet queued, (finalState (handleRetry data) c).trace = .retried data packet queued :: c.trace := by
  apply Ensures.final (P := fun c' : Conn env => c' = c ∨
    ∃ packet queued, c'.trace = .retried data packet queued :: c.trace)
  simp only [handleRetry, ensures_flow]
  refine ⟨fun _ => .inl trivial, fun _ => ?_⟩
  cases env.parseRetry data c.initialDcid with
  | error e =>
    simp only [ensures_raiseIf]
    exact ⟨fun _ => .inl trivial, fun _ => .inl trivial⟩
  | ok packet =>
    simp only [ensures_flow, acceptRetry]
    refine ⟨fun _ => .inl trivial, fun _ => ?_⟩
    apply (requeueAllCrypto_requeues _).mono
    · rintro _ _ rfl
      exact .inr ⟨packet, _, rfl⟩
    · exact fun _ _ h => h.elim

lemma locateLong_heard (data : Bytes) (hclient : c.isClient = true) :
    Ensures (locateLong data) c fun located c' => located.isSome = true → c'.peerCidConfirmed = true := by
  simp only [locateLong, ensures_flow]
  refine ⟨fun header _ => ?_, fun _ _ => trivial⟩
  cases levelOf header.packetType with
  | none => simp
  | some level =>
    simp only [ensures_flow]
    refine ⟨fun _ => by simp, fun _ => ?_⟩
    apply (noteLongHeader_heard header level hclient).imp_true
    exact fun _ _ h _ => h

/-- What it means that a client has taken up a Retry, between the newer and the older of its notes. The Retry
was the only one, verified under the ID that the client first called its server by, at a state from before it
heard from the server. All Initial packets since are sealed under the keys of the Retry, with numbers above
those from before, and bear the token. What was sent from before in CRYPTO frames is queued again. -/
structure TakesUp (c c' : Conn env) (newer older : List Note) (data : Bytes) (packet : Primitives.Retry)
    (queued : List Crypto) : Prop where
  only : ∀ data' packet' queued', .retried data' packet' queued' ∉ newer ++ older
  verified : env.parseRetry data c.initialDcid = .ok packet
  unheard : ∃ s w, Path (Core.initial env.toPrimitives true c.config c.hostCid c.initialDcid) s ∧
    Path s (c'.core w []) ∧ s.trace = older ∧ ∀ t, Path t s → t.peerCidConfirmed = false
  keys : ∀ keys number frames, .sealed .initial keys number frames ∈ newer →
    keys = env.initialKeys true packet.sourceCid
  upward : ∀ keys number frames keys' number' frames', .sealed .initial keys number frames ∈ newer →
    .sealed .initial keys' number' frames' ∈ older → number' < number
  token : ∀ now rounds datagrams c'', datagramsToSend now rounds c' = .ok datagrams c'' →
    ∀ d ∈ datagrams, opensInitial d.data = true → Bears env packet.token d.data
  requeued : ∀ keys number frames crypto, .sealed .initial keys number frames ∈ older →
    .crypto crypto ∈ frames → crypto ∈ queued

lemma Core.unheard_before {s t : Core} (hpath : Path t s) (hstrict : s.caller.lax = false)
    (hclient : s.isClient = true)
    (h : s.peerCidConfirmed = false) : t.peerCidConfirmed = false := by
  by_contra hconfirmed
  have hheard : t.Heard := .inr fun _ => by simpa using hconfirmed
  rcases hpath.heard hheard with hlax | hheard
  · exact absurd (hstrict.symm.trans hlax) (by decide)
  · exact absurd (h.symm.trans (hheard hclient)) (by decide)

lemma Core.Counts.upward {s : Core} (h : s.Counts) {newer older : List Note} {note : Note}
    (htrace : s.trace = newer ++ note :: older) {level : Level} {keys keys' : PacketKeys} {number number' : ℕ}
    {frames frames' : List Frame} (hnewer : .sealed level keys number frames ∈ newer)
    (holder : .sealed level keys' number' frames' ∈ older) : number' < number := by
  have hordered := h.ordered
  rw [htrace, List.filterMap_append, List.pairwise_append] at hordered
  exact hordered.2.2 ⟨level, keys, number⟩ (List.mem_filterMap.2 ⟨_, hnewer, rfl⟩) ⟨level, keys', number'⟩
    (List.mem_filterMap.2 ⟨_, List.mem_cons_of_mem _ holder, rfl⟩) rfl

lemma Session.answering (h : Begins c) (hclient : c.isClient = true) (ops : List (Op env)) :
    ∃ intact, (((Session.start c).run ops).core intact).Answering
      (Core.initial env.toPrimitives true c.config c.hostCid c.initialDcid) := by
  obtain ⟨isClient, config, hostCid, peerCid, -, -, hbegin⟩ := h.path
  obtain ⟨intact, hrun, -⟩ := Session.onward h ops
  obtain rfl : c.isClient = isClient := hbegin.same.isClient
  obtain rfl : c.config = config := hbegin.same.config
  obtain rfl : c.hostCid = hostCid := hbegin.same.hostCid
  rw [hclient] at hbegin
  have hbegun := hbegin.invariant (P := fun s => s.ids.Client peerCid) (fun _ _ heffect hs => hs.effect heffect)
    (Core.client_initial _ _ _ _)
  obtain rfl : c.initialDcid = peerCid := hbegun.initialDcid
  have hpath : Path (Core.initial env.toPrimitives true c.config c.hostCid c.initialDcid) _ := hbegin.trans hrun
  refine ⟨intact, hpath.invariant (P := fun s => s.Answering _) (fun _ _ heffect hs => hs.effect heffect)
    ⟨Core.client_initial _ _ _ _, .refl, fun htaken => absurd rfl htaken, ?_⟩⟩
  intro newer older data packet queued htrace
  exact absurd htrace.symm (by simp [Core.initial])

theorem one_retry_taken (h : Begins c) (hclient : c.isClient = true) (ops : List (Op env)) :
    (∀ newer older data packet queued,
      ((Session.start c).run ops).conn.trace = newer ++ .retried data packet queued :: older →
      TakesUp c ((Session.start c).run ops).conn newer older data packet queued) ∧
    (∀ (c₁ : Conn env) data, finalState (handleRetry data) c₁ = c₁ ∨
      ∃ packet queued, (finalState (handleRetry data) c₁).trace = .retried data packet queued :: c₁.trace) ∧
    ∀ (c₁ : Conn env) data located c₂, c₁.isClient = true → locateLong data c₁ = .ok (some located) c₂ →
      c₂.peerCidConfirmed = true := by
  refine ⟨?_, fun c₁ data => handleRetry_noted data c₁, fun c₁ data located c₂ hrole hlocated =>
    (locateLong_heard data hrole).of_ok hlocated rfl⟩
  intro newer older data packet queued htrace
  obtain ⟨intact, hanswering⟩ := Session.answering h hclient ops
  have hanswered := hanswering.answered newer older data packet queued htrace
  have hcounts := hanswering.reached.invariant (P := Core.Counts) (fun _ _ heffect hs => hs.effect heffect)
    ⟨fun _ hmem => absurd hmem List.not_mem_nil, List.Pairwise.nil⟩
  have hbalanced := (Core.balanced_initial _ _ _ _ _).path hanswering.reached
  refine ⟨hanswered.only, hanswered.verified, ?_, hanswered.keys, ?_, ?_, hanswered.requeued⟩
  · obtain ⟨s, hbefore, hafter, hnotes, hstrict, hrole, hunheard⟩ := hanswered.unheard
    exact ⟨s, _, hbefore, hafter, hnotes, fun t ht => Core.unheard_before ht hstrict hrole hunheard⟩
  · exact fun _ _ _ _ _ _ hnewer holder => hcounts.upward htrace hnewer holder
  · intro now rounds datagrams c'' hsend
    exact (datagramsToSend_bears rounds hbalanced.flushed hanswered.token hanswered.nonempty).of_ok hsend

end Run

def plainRetry (token : Bytes) : Bytes :=
  [0xf0, 0, 0, 0, 1, 8] ++ List.replicate 8 2 ++ [8] ++ List.replicate 8 6 ++ token ++ List.replicate 16 0

def retryOps : List (Op .plain) :=
  [.datagramsToSend 0 3, .datagramReceived (plainRetry [5]) 0 none 0, .datagramsToSend 1 3,
    .datagramReceived (plainRetry [4]) 1 none 0]

theorem one_retry_taken_first : ∃ newer older,
    ((Session.start (plainClient .default none)).run retryOps).conn.trace = newer ++
      .retried (plainRetry [5]) ⟨quicV1, List.replicate 8 2, List.replicate 8 6, [5]⟩ [⟨0, [1]⟩] :: older ∧
    TakesUp (plainClient .default none) ((Session.start (plainClient .default none)).run retryOps).conn newer older
      (plainRetry [5]) ⟨quicV1, List.replicate 8 2, List.replicate 8 6, [5]⟩ [⟨0, [1]⟩] := by
  have htaken : .retried (plainRetry [5]) ⟨quicV1, List.replicate 8 2, List.replicate 8 6, [5]⟩ [⟨0, [1]⟩] ∈
      ((Session.start (plainClient .default none)).run retryOps).conn.trace := by
    decide +kernel
  obtain ⟨newer, older, htrace⟩ := List.append_of_mem htaken
  exact ⟨newer, older, htrace, (one_retry_taken (begins_plainClient .default none) (by decide +kernel) retryOps).1
    newer older _ _ _ htrace⟩

end Dsquic.Connection
