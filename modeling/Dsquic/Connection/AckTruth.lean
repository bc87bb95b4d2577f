import Dsquic.Connection.EarlyData
import Dsquic.Recovery.Completeness
import Dsquic.Wire.FrameCodec
import Dsquic.Wire.PacketCodec

/-!
What an ACK frame says: the packet numbers of a space that were processed, the highest runs of them, and nothing
that the peer has not sent.
-/

namespace Dsquic.Connection

open Lib Wire Streams Recovery

section Runs

structure MaximalRun (P : ℕ → Prop) (range : ℕ × ℕ) : Prop where
  ordered : range.1 ≤ range.2
  inside : ∀ n, range.1 ≤ n → n ≤ range.2 → P n
  above : ¬P (range.2 + 1)
  below : ∀ n, n + 1 = range.1 → ¬P n

structure HighestRuns (P : ℕ → Prop) (limit : ℕ) (ranges : List (ℕ × ℕ)) : Prop where
  few : ranges.length ≤ limit
  descending : ranges.Pairwise fun above below => below.2 + 2 ≤ above.1
  runs : ∀ range ∈ ranges, MaximalRun P range
  highest : ∀ range, MaximalRun P range → range ∈ ranges ∨ ranges.length = limit ∧
    ∀ other ∈ ranges, range.2 < other.1

variable {s : RangeSet ℕ} {limit : ℕ} {range : ℕ × ℕ}

lemma HighestRuns.head {P : ℕ → Prop} {ranges : List (ℕ × ℕ)} {first greatest : ℕ} (h : HighestRuns P limit ranges)
    (hlimit : 0 < limit) (hrun : MaximalRun P (first, greatest)) (hgreatest : ∀ n, P n → n ≤ greatest) :
    ∃ rest, ranges = (first, greatest) :: rest := by
  have hstart (range : ℕ × ℕ) (hrange : range ∈ ranges) : range.1 ≤ greatest :=
    hgreatest _ ((h.runs range hrange).inside _ le_rfl (h.runs range hrange).ordered)
  rcases h.highest _ hrun with hmem | ⟨hlength, habove⟩
  · cases ranges with
    | nil => exact absurd hmem List.not_mem_nil
    | cons range rest =>
      rcases List.mem_cons.1 hmem with rfl | hmem
      · exact ⟨rest, rfl⟩
      · have hbelow := (List.pairwise_cons.1 h.descending).1 _ hmem
        have hle := hstart range List.mem_cons_self
        simp only at hbelow
        omega
  · obtain ⟨range, hrange⟩ := List.exists_mem_of_length_pos (hlength ▸ hlimit)
    have hlt := habove range hrange
    have hle := hstart range hrange
    simp only at hlt
    omega

end Runs

variable {n : ℕ} {frames : List Frame}

section Receipts

def Receipts.ofPackets (packets : List (ℕ × ℕ)) : Receipts :=
  packets.foldr (fun packet receipts => receipts.add packet.1 packet.2) .new

variable {packets : List (ℕ × ℕ)}

lemma Receipts.mem_ofPackets : n ∈ (ofPackets packets).received ↔ n ∈ packets.map Prod.fst := by
  induction packets with
  | nil => simp [ofPackets, new]
  | cons packet packets ih =>
    have hone : packet.1 ≤ n ∧ n < packet.1 + 1 ↔ n = packet.1 := by omega
    rw [List.map_cons, List.mem_cons, ← ih, ← hone, or_comm]
    exact RangeSet.mem_add

lemma Receipts.largestReceived_mem (h : 0 ≤ (ofPackets packets).largestReceived) :
    (ofPackets packets).largestReceived.toNat ∈ packets.map Prod.fst := by
  induction packets with
  | nil => exact absurd h (by decide)
  | cons packet packets ih =>
    have hadd : (ofPackets (packet :: packets)).largestReceived =
        max (ofPackets packets).largestReceived packet.1 := rfl
    rw [hadd] at h ⊢
    rw [List.map_cons, List.mem_cons]
    rcases le_total (packet.1 : ℤ) (ofPackets packets).largestReceived with hle | hle
    · rw [max_eq_left hle] at h ⊢
      exact .inr (ih h)
    · rw [max_eq_right hle]
      exact .inl (Int.toNat_natCast _)

end Receipts

section Build

variable {space : Space PacketKeys Bytes} {packets : List (ℕ × ℕ)} {ack : Ack}

end Build

section Trace

def Note.receipt? (level : Level) : Note → Option (ℕ × ℕ)
  | .processed other packetNumber ecn _ => if other = level then some (packetNumber, ecn) else none
  | _ => none

def processedAt (level : Level) (trace : List Note) : List (ℕ × ℕ) := trace.filterMap (Note.receipt? level)

def Note.spoken? : Note → Option (Level × ℕ × List Frame)
  | .sealed level _ packetNumber frames => some (level, packetNumber, frames)
  | _ => none

def Note.payload? : Note → Option Bytes
  | .processed _ _ _ payload => some payload
  | _ => none

def Note.prompt : Note → Bool
  | .completed state => state = .handshaking || state = .connected
  | _ => true

variable {level : Level} {trace : List Note}

lemma mem_processedAt : n ∈ (processedAt level trace).map Prod.fst ↔
    ∃ ecn payload, Note.processed level n ecn payload ∈ trace := by
  simp only [processedAt, List.mem_map, List.mem_filterMap]
  constructor
  · rintro ⟨packet, ⟨note, hnote, hreceipt⟩, rfl⟩
    cases note with
    | processed other packetNumber ecn payload =>
      simp only [Note.receipt?] at hreceipt
      split_ifs at hreceipt with hlevel
      cases hreceipt
      exact ⟨ecn, payload, hlevel ▸ hnote⟩
    | _ => cases hreceipt
  · rintro ⟨ecn, payload, hnote⟩
    exact ⟨(n, ecn), ⟨_, hnote, if_pos rfl⟩, rfl⟩

end Trace

variable {level : Level}

namespace Core

variable {s s' : Core}

def Records (s : Core) : Prop := ∀ level, (s.inboxes level).receipts = .ofPackets (processedAt level s.trace)

lemma inboxes_onInbox (s : Core) (level : Level) (f : Inbox → Inbox) :
    (s.onInbox level f).inboxes level = f (s.inboxes level) := Function.update_self _ _ _

lemma inboxes_onInbox_of_ne (s : Core) {level other : Level} (h : other ≠ level) (f : Inbox → Inbox) :
    (s.onInbox level f).inboxes other = s.inboxes other := Function.update_of_ne h _ _

lemma records_onInbox (h : s.Records) (level : Level) {f : Inbox → Inbox}
    (hf : ∀ inbox, (f inbox).receipts = inbox.receipts) : (s.onInbox level f).Records := by
  intro other
  refine Eq.trans ?_ (h other)
  by_cases hother : other = level
  · rw [hother, inboxes_onInbox, hf]
  · rw [inboxes_onInbox_of_ne s hother]

lemma records_close (h : s.Records) (frame : ConnectionClose) : (s.close frame).Records := by
  simp only [close]
  split_ifs
  · exact h
  · exact h

lemma records_process (h : s.Records) (level : Level) (packetNumber ecn : ℕ) (payload : Bytes) :
    (s.process level packetNumber ecn payload).Records := by
  intro other
  by_cases hother : level = other
  · subst hother
    have hcons : processedAt level (s.process level packetNumber ecn payload).trace =
        (packetNumber, ecn) :: processedAt level s.trace :=
      List.filterMap_cons_some (if_pos rfl)
    rw [hcons, process, inboxes_onInbox, note]
    exact congrArg (Receipts.add · packetNumber ecn) (h level)
  · have hsame : processedAt other (s.process level packetNumber ecn payload).trace = processedAt other s.trace :=
      List.filterMap_cons_none (if_neg hother)
    rw [hsame, process, inboxes_onInbox_of_ne _ (Ne.symm hother), note]
    exact h other

lemma Records.effect (h : s.Records) (heffect : Effect s s') : s'.Records := by
  cases heffect with
  | process level packetNumber ecn payload => exact records_process h level packetNumber ecn payload
  | processClose level packetNumber ecn payload => exact records_process h level packetNumber ecn payload
  | close frame => exact records_close h frame
  | abort frame => exact records_close (s := s.note (.aborted s.state)) h frame
  | adopt | install | retry => exact records_onInbox (by exact h) .initial fun _ => rfl
  | reassemble level | rekey level => exact records_onInbox (by exact h) level fun _ => rfl
  | discard level =>
    exact records_onInbox (s := s.note (.discarded level (s.probesPending level))) h level
      (f := fun inbox => { inbox with phase := { inbox.phase with current := none } }) fun _ => rfl
  | secret | rotate | beginPhase | arm => exact records_onInbox (by exact h) .oneRtt fun _ => rfl
  | _ => exact h

def Prompt (s : Core) : Prop := ∀ note ∈ s.trace, note.prompt = true

lemma Prompt.of_subset (h : s'.Prompt) (hsub : s.trace ⊆ s'.trace) : s.Prompt :=
  fun note hnote => h note (hsub hnote)

def Tracked (s : Core) : Prop := ∀ packet ∈ s.trace.filterMap Note.spoken?,
  (∃ close, packet.2.2 = [.connectionClose close]) ∨ (packet.2.1 : ℤ) ≤ (s.recovery.spaces packet.1).largestSent

lemma Tracked.of_le (h : s.Tracked) (htrace : s'.trace.filterMap Note.spoken? = s.trace.filterMap Note.spoken?)
    (hlargest : ∀ level, (s.recovery.spaces level).largestSent ≤ (s'.recovery.spaces level).largestSent) :
    s'.Tracked := by
  intro packet hpacket
  rw [htrace] at hpacket
  exact (h packet hpacket).imp_right fun hle => hle.trans (hlargest packet.1)

lemma tracked_close (h : s.Tracked) (frame : ConnectionClose) : (s.close frame).Tracked := by
  simp only [close]
  split_ifs
  · exact h
  · exact h

lemma largestSent_onPacketSent (l : LossDetection) (packet : SentPacket) (level : Level) :
    (l.spaces level).largestSent ≤ ((l.onPacketSent packet).spaces level).largestSent ∧
      (packet.packetNumber : ℤ) ≤ ((l.onPacketSent packet).spaces packet.level).largestSent := by
  simp only [LossDetection.onPacketSent, LossDetection.spaces_setSpace, if_true]
  refine ⟨?_, le_max_right _ _⟩
  split_ifs with hlevel
  · rw [hlevel]
    exact le_max_left _ _
  · exact le_rfl

lemma Tracked.effect (h : s.Tracked) (heffect : Effect s s') : s'.Tracked := by
  cases heffect with
  | close frame => exact tracked_close h frame
  | abort frame => exact tracked_close (s := s.note (.aborted s.state)) h frame
  | protect level keys frames hdiscarded hframes =>
    intro packet hpacket
    rcases List.mem_cons.1 hpacket with rfl | hpacket
    · exact .inl hframes
    · exact h packet hpacket
  | send keys sent =>
    intro packet hpacket
    rcases List.mem_cons.1 hpacket with rfl | hpacket
    · exact .inr (largestSent_onPacketSent s.recovery sent sent.level).2
    · exact (h packet hpacket).imp_right fun hle => hle.trans (largestSent_onPacketSent s.recovery sent packet.1).1
  | settle level acked lost recovery hsettles => exact h.of_le rfl fun other => (hsettles.largestSent_eq other).ge
  | tune recovery hspaces =>
    exact h.of_le rfl fun other => (congrArg SentSpace.largestSent (congrFun hspaces other)).ge
  | restart level => exact h.of_le rfl fun other => (LossDetection.largestSent_emptied s.recovery level _ other).ge
  | discard level =>
    exact h.of_le rfl fun other => (LossDetection.largestSent_emptied s.recovery level true other).ge
  | _ => exact h

lemma payload_effect (heffect : Effect s s') {payload : Bytes} (h : payload ∈ s'.trace.filterMap Note.payload?) :
    payload ∈ s.trace.filterMap Note.payload? ∨ (∀ frame, ¬ClosesFirst payload frame) ∨ s'.state = .draining := by
  cases heffect with
  | process level packetNumber ecn other hnew hcloses =>
    rcases List.mem_cons.1 h with rfl | h
    · exact .inr (.inl hcloses)
    · exact .inl h
  | processClose => exact .inr (.inr rfl)
  | close frame =>
    simp only [close] at h
    split_ifs at h
    · exact .inl h
    · exact .inl h
  | abort frame =>
    simp only [close] at h
    split_ifs at h
    · exact .inl h
    · exact .inl h
  | _ => exact .inl h

lemma sending_before (heffect : Effect s s') (hprompt : s'.Prompt) (h : s'.Sending) : s.Sending := by
  cases heffect with
  | complete alpn =>
    have hstate : s.state = .handshaking ∨ s.state = .connected := by
      simpa [Note.prompt] using hprompt (.completed s.state) List.mem_cons_self
    refine ⟨h.1, ?_, ?_⟩ <;> rcases hstate with hstate | hstate <;> simp [hstate]
  | drain | processClose => exact absurd rfl h.2.1
  | negotiate | expire | terminate => exact absurd rfl h.2.2
  | close frame =>
    simp only [close] at h
    split_ifs at h
    · exact h
    · cases h.1
  | abort frame =>
    simp only [close] at h
    split_ifs at h
    · exact h
    · cases h.1
  | _ => exact h

def HangsUp (s : Core) : Prop := s.Prompt → s.Sending → ∀ payload ∈ s.trace.filterMap Note.payload?, ∀ frame,
  ¬ClosesFirst payload frame

lemma HangsUp.effect (h : s.HangsUp) (heffect : Effect s s') : s'.HangsUp := by
  intro hprompt hsending payload hpayload frame
  rcases payload_effect heffect hpayload with hpayload | hnot | hdraining
  · exact h (hprompt.of_subset heffect.trace_subset) (sending_before heffect hprompt hsending) payload
      hpayload frame
  · exact hnot frame
  · exact absurd hdraining hsending.2.1

def Vouched (s : Core) (level : Level) (n : ℕ) : Prop :=
  ∃ ecn payload, .processed level n ecn payload ∈ s.trace ∧ ∀ frame, ¬ClosesFirst payload frame

lemma Vouched.effect (h : s.Vouched level n) (heffect : Effect s s') : s'.Vouched level n := by
  obtain ⟨ecn, payload, hnote, hnot⟩ := h
  exact ⟨ecn, payload, heffect.trace_subset hnote, hnot⟩

lemma vouched_of_sending (hrecords : s.Records) (hhangs : s.HangsUp) (hprompt : s.Prompt) (hsending : s.Sending)
    (h : (n : ℤ) = (s.inboxes level).receipts.largestReceived) : s.Vouched level n := by
  rw [hrecords level] at h
  have hmem := Receipts.largestReceived_mem (h ▸ Int.natCast_nonneg n)
  rw [← h, Int.toNat_natCast] at hmem
  obtain ⟨ecn, payload, hnote⟩ := mem_processedAt.1 hmem
  exact ⟨ecn, payload, hnote, hhangs hprompt hsending payload (List.mem_filterMap.2 ⟨_, hnote, rfl⟩)⟩

structure Acknowledges (s : Core) : Prop where
  carried : ∀ level ack, s.Carried level (.ack ack) → s.Vouched level ack.largest
  sealed : ∀ level keys n frames ack, .sealed level keys n frames ∈ s.trace → .ack ack ∈ frames →
    s.Vouched level ack.largest

lemma Acknowledges.effect (h : s.Acknowledges) (hs : s.Sound) (hrecords : s.Records) (hhangs : s.HangsUp)
    (heffect : Effect s s') (hprompt : s'.Prompt) : s'.Acknowledges where
  carried level ack hcarried := by
    refine Vouched.effect ?_ heffect
    rcases hcarried.origin hs heffect with hcarried | htaken
    · exact h.carried level ack hcarried
    · cases htaken with
      | control _ hcontrol => exact absurd (hs.controls _ hcontrol) id
      | plain _ hplain hack =>
        obtain ⟨hsending, hlargest⟩ := hack ack rfl
        exact vouched_of_sending hrecords hhangs (hprompt.of_subset heffect.trace_subset) hsending hlargest
  sealed level keys n frames ack hsealed hack := by
    refine Vouched.effect ?_ heffect
    rcases sealed_effect heffect hsealed with hsealed | ⟨-, ⟨close, rfl⟩ | hcarried⟩
    · exact h.sealed level keys n frames ack hsealed hack
    · cases List.mem_singleton.1 hack
    · exact h.carried level ack (hcarried _ hack)

structure Truthful (s : Core) : Prop where
  sound : s.Sound
  records : s.Records
  tracked : s.Tracked
  hangsUp : s.HangsUp
  acknowledges : s.Prompt → s.Acknowledges

lemma Truthful.effect (h : s.Truthful) (heffect : Effect s s') : s'.Truthful where
  sound := h.sound.effect heffect
  records := h.records.effect heffect
  tracked := h.tracked.effect heffect
  hangsUp := h.hangsUp.effect heffect
  acknowledges hprompt :=
    (h.acknowledges (hprompt.of_subset heffect.trace_subset)).effect h.sound h.records h.hangsUp
    heffect hprompt

end Core

variable {ack : Ack} {l : LossDetection}

section Truth

variable {env : Env} {c : Conn env}

end Truth

section Exchange

variable {level : Level} {trace peer : List Note}

def plainGreeting : Bytes := (sentAt 0 2 (plainClient .default none)).headD []

def waitingClient : Session .plain :=
  (Session.start (plainClient .default none)).run [.datagramsToSend 0 3, .handleTimer 1]

def greetedServer : Session .plain :=
  (Session.start (plainServer .default)).run [.datagramReceived plainGreeting 0 none 0,
    .datagramReceived ((sentAt 1 3 waitingClient.conn).getD 1 []) 1 none 0]

lemma greetedServer_facts :
    (greetedServer.conn.spaces .initial).buildAck = some ⟨2, 0, [(2, 2), (0, 0)], none⟩ ∧
      processedAt .initial greetedServer.conn.trace = [(2, 0), (0, 0)] := by
  decide +kernel

end Exchange

section Farewell

end Farewell

section Outgrown

variable {space : Space PacketKeys Bytes} {packets : List (ℕ × ℕ)}

end Outgrown

end Dsquic.Connection
