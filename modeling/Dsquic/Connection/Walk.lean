import Dsquic.Connection.InitialDatagrams

/-!
A datagram is taken apart into the packets it was put together from, whatever became of what they protect.
-/

namespace Dsquic.Connection

open Lib Wire Streams Recovery

structure Framed (level : Level) (header : LongHeader) (byte : UInt8) (middle : Bytes) : Prop where
  long : isLong byte = true
  packetType : header.packetType = packetTypeOf level
  pnOffset : header.pnOffset = 1 + middle.length
  parse : ∀ rest, parseLongHeader (byte :: (middle ++ rest)) = .ok header

def Frames (level : Level) (packet : Bytes) : Prop :=
  ∃ header byte middle body, Framed level header byte middle ∧ packet = byte :: (middle ++ body) ∧
    body.length = header.length

def Damaged (packet packet' : Bytes) : Prop :=
  packet' = packet ∨ isLong (packet.headD 0) = true ∧ packet'.length = packet.length ∧
    ∀ header, parseLongHeader packet = .ok header → packet'.take header.pnOffset = packet.take header.pnOffset

def Closing (packet : Bytes) : Prop := packet ≠ [] ∧ isLong (packet.headD 0) = false ∨ ∃ level, Frames level packet

inductive Train : List Bytes → Prop
  | none : Train []
  | last {packet : Bytes} (h : Closing packet) : Train [packet]
  | cons {packet : Bytes} {packets : List Bytes} (h : Frames .handshake packet) (hrest : Train packets) :
      Train (packet :: packets)

section Damage

variable {level : Level} {packet packet' : Bytes} {packets packets' : List Bytes}

lemma Frames.damaged (h : Frames level packet) (hdamaged : Damaged packet packet') : Frames level packet' := by
  obtain rfl | ⟨-, hlength, htake⟩ := hdamaged
  · exact h
  · obtain ⟨header, byte, middle, body, hframed, rfl, hbody⟩ := h
    have htake := htake header (hframed.parse body)
    rw [hframed.pnOffset, take_veiled] at htake
    refine ⟨header, byte, middle, packet'.drop (1 + middle.length), hframed, ?_, ?_⟩
    · rw [← List.cons_append, ← htake, List.take_append_drop]
    · simp only [List.length_drop, hlength, List.length_cons, List.length_append]
      omega

lemma Closing.damaged (h : Closing packet) (hdamaged : Damaged packet packet') : Closing packet' := by
  rcases h with ⟨hne, hshort⟩ | ⟨level, hframes⟩
  · obtain rfl | ⟨hlong, -⟩ := hdamaged
    · exact .inl ⟨hne, hshort⟩
    · exact absurd (hshort.symm.trans hlong) Bool.false_ne_true
  · exact .inr ⟨level, hframes.damaged hdamaged⟩

lemma Train.damaged (h : Train packets) (hdamaged : List.Forall₂ Damaged packets packets') : Train packets' := by
  induction h generalizing packets' with
  | none =>
    cases hdamaged
    exact .none
  | last hclosing =>
    cases hdamaged with
    | cons hfirst hrest =>
      cases hrest
      exact .last (hclosing.damaged hfirst)
  | cons hframes _ ih =>
    cases hdamaged with
    | cons hfirst hrest => exact .cons (hframes.damaged hfirst) (ih hrest)

end Damage

section Receive

variable {env : Env} {c : Conn env} {now : ℚ} {ecn : ℕ} {level : Level} {header : LongHeader} {byte : UInt8}
  {middle body packet : Bytes} {packets : List Bytes}

lemma locatePacket_long {data : Bytes} (hlong : isLong (data.headD 0) = true)
    (hparse : parseLongHeader data = .ok header)
    (hlevel : levelOf header.packetType = some level) :
    (locatePacket data : M env (Option Located)) = do
      let c ← get
      if c.isClient ∧ header.packetType = .zeroRtt then return none
      else do
        noteLongHeader header level
        return some ⟨level, header.pnOffset, data.take (header.pnOffset + header.length),
          header.pnOffset + header.length⟩ := by
  obtain ⟨htype, hversion⟩ := version_of_parseLongHeader hparse
  have hretry : PacketType.ofFirst (data.headD 0) ≠ .retry := by
    rw [← htype]
    intro heq
    rw [heq] at hlevel
    cases hlevel
  have hnegotiation : isVersionNegotiation data = false := by
    simp only [isVersionNegotiation, longVersion, hversion]
    split_ifs <;> rfl
  have hnot : Primitives.isRetry data = false := by
    rw [Primitives.isRetry, decide_eq_false hretry, Bool.and_false]
  simp only [locatePacket, locateLong, hlong, not_true_eq_false, if_false, hnegotiation, hnot,
    Bool.false_eq_true, and_false, hparse, lift_ok, pure_bind, hlevel]
  rfl

lemma locatePacket_framed (h : Framed level header byte middle) (hbody : body.length = header.length)
    (rest : Bytes) :
    (locatePacket (byte :: (middle ++ body) ++ rest) : M env (Option Located)) = do
      let c ← get
      if c.isClient ∧ header.packetType = .zeroRtt then return none
      else do
        noteLongHeader header level
        return some ⟨level, header.pnOffset, byte :: (middle ++ body), (byte :: (middle ++ body)).length⟩ := by
  have hdata : byte :: (middle ++ body) ++ rest = byte :: (middle ++ (body ++ rest)) := by simp
  have hlevel : levelOf header.packetType = some level := by
    rw [h.packetType]
    cases level <;> rfl
  have hend : header.pnOffset + header.length = (byte :: (middle ++ body)).length := by
    simp only [h.pnOffset, ← hbody, List.length_cons, List.length_append]
    omega
  have hlong : isLong ((byte :: (middle ++ body) ++ rest).headD 0) = true := h.long
  rw [locatePacket_long hlong (hdata ▸ h.parse (body ++ rest)) hlevel, hend, List.take_left]

lemma processPacket_append (h : Frames level packet) (rest : Bytes) :
    (processPacket (packet ++ rest) now ecn : M env ℕ) = processPacket packet now ecn := by
  obtain ⟨header, byte, middle, body, hframed, rfl, hbody⟩ := h
  have hlocate := (@locatePacket_framed env _ _ _ _ _ hframed hbody rest).trans
    (locatePacket_framed hframed hbody []).symm
  rw [List.append_nil] at hlocate
  simp only [processPacket, hlocate]

lemma openPacket_consumes (located : Located) (zeroRtt : Bool) :
    Ensures (openPacket located zeroRtt now ecn) c fun consumed _ => consumed = located.packetEnd := by
  rw [openPacket]
  refine ensures_bind_of_forall fun decrypted c₁ => ?_
  cases decrypted with
  | none => rfl
  | some opened =>
    simp only [ensures_flow, true_and, implies_true]
    exact fun _ => (ensures_self _ _).imp_true fun _ _ _ => trivial

lemma processPacket_consumes {P : ℕ → Prop} (h : Ensures (locatePacket packet) c
    (fun located _ => P (located.elim 0 Located.packetEnd)) fun _ _ => P 0) :
    Ensures (processPacket packet now ecn) c fun consumed _ => P consumed := by
  simp only [processPacket, ensures_bind, ensures_tryCatch]
  apply h.mono
  · rintro (_ | located) c₁ hend
    · exact hend
    · simp only [ensures_flow]
      exact ⟨fun _ => (openPacket_consumes located _).imp (fun _ _ hconsumed => hconsumed ▸ hend),
        fun _ => hend⟩
  · intro e c₁ hzero
    simp only [ensures_flow, ensures_throw]
    exact ⟨fun _ => hzero, fun _ => trivial⟩

lemma Frames.consumes (h : Frames .handshake packet) :
    Ensures (processPacket packet now ecn) c fun consumed _ => consumed = packet.length := by
  obtain ⟨header, byte, middle, body, hframed, rfl, hbody⟩ := h
  apply processPacket_consumes
  have hlocate := @locatePacket_framed env _ _ _ _ _ hframed hbody []
  rw [List.append_nil] at hlocate
  have htype : header.packetType ≠ .zeroRtt := by
    rw [hframed.packetType]
    decide
  simp only [hlocate, noteLongHeader, ensures_flow]
  refine ⟨fun h => absurd h.2 htype,
    fun _ => ⟨fun h => absurd h.2 (by decide), fun _ => ⟨fun _ => rfl, fun _ => rfl⟩⟩⟩

lemma Closing.consumes (h : Closing packet) :
    Ensures (processPacket packet now ecn) c fun consumed _ => consumed = 0 ∨ consumed = packet.length := by
  apply processPacket_consumes
  rcases h with ⟨-, hshort⟩ | ⟨level, header, byte, middle, body, hframed, rfl, hbody⟩
  · simp only [locatePacket, hshort, ensures_flow]
    exact ⟨fun _ => ⟨fun _ _ => .inr rfl, fun _ _ => .inl trivial⟩, fun h => absurd Bool.false_ne_true h⟩
  · have hlocate := @locatePacket_framed env _ _ _ _ _ hframed hbody []
    rw [List.append_nil] at hlocate
    simp only [hlocate, ensures_flow]
    exact ⟨fun _ => .inl rfl, fun _ => (ensures_self _ _).mono (fun _ _ _ => .inr rfl) fun _ _ _ => .inl trivial⟩

def processAlone (now : ℚ) (ecn : ℕ) (packet : Bytes) : M env PUnit := discard (processPacket packet now ecn)

lemma processAlone_of_ok {consumed : ℕ} {c' : Conn env} (h : processPacket packet now ecn c = .ok consumed c') :
    processAlone now ecn packet c = .ok ⟨⟩ c' := by
  simp [processAlone, discard, Functor.mapConst, EStateM.map, h]

lemma processAlone_of_error {e : Raised} {c' : Conn env} (h : processPacket packet now ecn c = .error e c') :
    processAlone now ecn packet c = .error e c' := by
  simp [processAlone, discard, Functor.mapConst, EStateM.map, h]

lemma Frames.ne_nil (h : Frames level packet) : packet ≠ [] := by
  obtain ⟨_, _, _, _, -, rfl, -⟩ := h
  exact List.cons_ne_nil _ _

lemma Train.processPackets (h : Train packets) {rounds : ℕ} (hrounds : packets.flatten.length ≤ rounds) :
    Connection.processPackets now ecn rounds packets.flatten c = each (processAlone now ecn) packets c := by
  induction h generalizing c rounds with
  | none => cases rounds <;> rfl
  | @last packet hclosing =>
    have hne : packet ≠ [] := by
      rcases hclosing with h | ⟨_, h⟩
      · exact h.1
      · exact h.ne_nil
    rw [List.flatten_cons, List.flatten_nil, List.append_nil] at hrounds ⊢
    obtain ⟨rounds, rfl⟩ := Nat.exists_eq_add_of_le' ((List.length_pos_of_ne_nil hne).trans_le hrounds)
    rw [Connection.processPackets, if_neg hne]
    change EStateM.bind _ _ c = _
    rw [EStateM.bind]
    cases hcall : processPacket packet now ecn c with
    | error e c' => exact (each_cons_of_error (processAlone_of_error hcall)).symm
    | ok consumed c' =>
      rw [each_cons_of_ok (processAlone_of_ok hcall)]
      rcases hclosing.consumes.of_ok hcall with rfl | rfl
      · rfl
      · simp only [List.drop_length]
        cases rounds <;> split_ifs <;> rfl
  | @cons packet packets hframes _ ih =>
    have hpos := List.length_pos_of_ne_nil hframes.ne_nil
    rw [List.flatten_cons, List.length_append] at hrounds
    obtain ⟨rounds, rfl⟩ := Nat.exists_eq_add_of_le' (show 1 ≤ rounds by omega)
    rw [List.flatten_cons, Connection.processPackets, if_neg (List.append_ne_nil_of_left_ne_nil hframes.ne_nil _),
      processPacket_append hframes]
    change EStateM.bind _ _ c = _
    rw [EStateM.bind]
    cases hcall : processPacket packet now ecn c with
    | error e c' => exact (each_cons_of_error (processAlone_of_error hcall)).symm
    | ok consumed c' =>
      obtain rfl := hframes.consumes.of_ok hcall
      rw [each_cons_of_ok (processAlone_of_ok hcall)]
      simp only [hpos.ne', if_false, List.drop_left]
      exact ih (by omega)

end Receive

section Send

variable {env : Env} {c : Conn env} {now : ℚ} {level : Level} {short : Bool} {padTo : ℕ} {packet : Bytes}
  {packets : List Bytes} {budget : ℤ}

structure Conn.Speaks (c : Conn env) : Prop where
  version : c.config.version = quicV1
  hostCid : c.hostCid.length ≤ maxCidLength
  peerCid : c.peerCid.length ≤ maxCidLength

lemma Conn.Speaks.wellFormed (h : c.Speaks) (level : Level) : (c.headerTemplate level).WellFormed where
  packetType := show packetTypeOf level ≠ .retry by cases level <;> decide
  version := h.version
  destinationCid := h.peerCid
  sourceCid := h.hostCid
  token := by
    cases level with
    | initial => exact fun htype => absurd rfl htype
    | _ => exact fun _ => rfl

lemma Conn.Seals.closing (h : c.Seals level short padTo packet) (hspeaks : c.Speaks) :
    Closing packet ∧ (short = false → Frames level packet) := by
  have hframes : c.Seals level false padTo packet → Frames level packet := by
    intro h
    obtain ⟨first, middle, length, hlong, -, ⟨mask, body, rfl, hbody⟩, hparse⟩ := h.veiled_long
    have hparse := fun rest : Bytes => hparse (hspeaks.wellFormed level) rest.length _ [] ⟨mask, rest, rfl, rfl⟩
    simp only [List.append_nil] at hparse
    refine ⟨_, _, middle, body, ⟨(isLong_masked first mask).trans hlong, ?_, ?_, hparse⟩, rfl, ?_⟩
    · rfl
    · rfl
    · exact hbody
  cases short with
  | false => exact ⟨.inr ⟨level, hframes h⟩, fun _ => hframes h⟩
  | true =>
    obtain ⟨first, length, hshort, -, mask, body, rfl, -⟩ := h.veiled_short
    exact ⟨.inl ⟨List.cons_ne_nil _ _, (isLong_masked first mask).trans hshort⟩, fun h => by cases h⟩

lemma Conn.Packs.closing (h : c.Packs level short padTo packet) (hspeaks : c.Speaks) :
    Closing packet ∧ (level ≠ .oneRtt → Frames level packet) := by
  have hshort := h.short_eq_false
  obtain ⟨c₁, houtline, -, -, hseals⟩ := h
  have hspeaks₁ : c₁.Speaks :=
    ⟨(congrArg (·.config.version) houtline).trans hspeaks.version,
      (congrArg (·.hostCid.length) houtline).le.trans hspeaks.hostCid,
      (congrArg (·.peerCid.length) houtline).le.trans hspeaks.peerCid⟩
  exact ⟨(hseals.closing hspeaks₁).1, fun hlevel => (hseals.closing hspeaks₁).2 (hshort hlevel)⟩

lemma Conn.Carries.train (h : c.Carries budget Level.all packets) (hspeaks : c.Speaks) : Train packets := by
  have hlast : ∀ {packets}, c.Carries budget [.oneRtt] packets → Train packets := by
    rintro _ (_ | h | _ | ⟨-, hpacks, hrest⟩)
    · cases h
      exact .none
    · cases hrest
      exact .last (hpacks.closing hspeaks).1
  have hrest : ∀ {packets}, c.Carries budget [.handshake, .oneRtt] packets → Train packets := by
    rintro _ (_ | h | _ | ⟨-, hpacks, hrest⟩)
    · exact hlast h
    · exact .cons ((hpacks.closing hspeaks).2 (by decide)) (hlast hrest)
  cases h with
  | skip h => exact hrest h
  | initial hpacks => exact .last (hpacks.closing hspeaks).1
  | load hlevel => exact absurd rfl hlevel

def Sealed (env : Env) (packet : Bytes) : Prop :=
  ∃ (c : Conn env) (level : Level) (short : Bool) (padTo : ℕ), c.Seals level short padTo packet

def Coupled (env : Env) (data : Bytes) : Prop :=
  ∃ packets : List Bytes, packets.flatten = data ∧ (∀ packet ∈ packets, Sealed env packet) ∧ Train packets

lemma Conn.Carries.sealed {levels : List Level} (h : c.Carries budget levels packets) :
    ∀ packet ∈ packets, Sealed env packet := by
  induction h with
  | none => exact fun _ hmem => absurd hmem List.not_mem_nil
  | skip _ ih => exact ih
  | initial hpacks =>
    obtain ⟨c₁, -, -, -, hseals⟩ := hpacks
    exact fun packet hmem => List.mem_singleton.1 hmem ▸ ⟨c₁, _, _, _, hseals⟩
  | load _ hpacks _ ih =>
    obtain ⟨c₁, -, -, -, hseals⟩ := hpacks
    exact List.forall_mem_cons.2 ⟨⟨c₁, _, _, _, hseals⟩, ih⟩

lemma Conn.Speaks.of_same {c' : Conn env} (h : c.Speaks) (hsame : (c.core .new []).Same (c'.core .new [])) :
    c'.Speaks where
  version := (congrArg Config.version hsame.config).trans h.version
  hostCid := (congrArg List.length hsame.hostCid).le.trans h.hostCid
  peerCid := hsame.peerCid h.peerCid

lemma datagramsToSend_coupled (rounds : ℕ) (hpending : Session.totalLength c.pending = 0) (hspeaks : c.Speaks) :
    Ensures (datagramsToSend now rounds) c fun datagrams _ => ∀ d ∈ datagrams, Coupled env d.data := by
  refine datagramsToSend_each (P := Conn.Speaks) (fun c c' hspeaks hpath => hspeaks.of_same hpath.same)
    (fun c ackOnly hspeaks => buildDatagram_each fun hbudget => ?_) (fun level keys packet _ _ hseals => ?_)
    ⟨[], rfl, fun _ hmem => absurd hmem List.not_mem_nil, .none⟩ hpending hspeaks
  · refine (coalesce_spec now ackOnly hbudget Level.all []).imp ?_
    rintro packets _ ⟨_, rfl, hcarries⟩
    exact ⟨packets, rfl, hcarries.sealed, hcarries.train hspeaks⟩
  · exact ⟨[packet], List.append_nil _, List.forall_mem_singleton.2 ⟨c, _, _, _, hseals⟩,
      .last (hseals.closing hspeaks).1⟩

/-- A peer takes a datagram apart into the packets that were put together, and handles each as if it had come
alone, also when packets with a long header were altered after their header. -/
theorem datagrams_walked (h : Begins c) (ops : List (Op env)) (rounds : ℕ)
    {datagrams : List (OutgoingDatagram env)} {c' : Conn env}
    (hversion : ((Session.start c).run ops).conn.config.version = quicV1)
    (hsend : datagramsToSend now rounds ((Session.start c).run ops).conn = .ok datagrams c') :
    ∀ d ∈ datagrams, ∃ packets : List Bytes, packets.flatten = d.data ∧ (∀ packet ∈ packets, Sealed env packet) ∧
      ∀ packets', List.Forall₂ Damaged packets packets' →
        ∀ {env' : Env} (receiver : Conn env') (now' : ℚ) (ecn : ℕ),
        processPackets now' ecn packets'.flatten.length packets'.flatten receiver =
          each (processAlone now' ecn) packets' receiver := by
  obtain ⟨_, _, _, _, intact, -, -, hpath, -⟩ := Session.reached h ops
  have hbalanced := (Core.balanced_initial _ _ _ _ _).path hpath
  obtain ⟨hhost, hpeer⟩ := Session.length_cids h ops
  have hspeaks : ((Session.start c).run ops).conn.Speaks := ⟨hversion, hhost.le.trans (by decide), hpeer⟩
  intro d hd
  obtain ⟨packets, hdata, hsealed, htrain⟩ :=
    (datagramsToSend_coupled rounds hbalanced.flushed hspeaks).of_ok hsend d hd
  exact ⟨packets, hdata, hsealed, fun packets' hdamaged _ _ _ _ => (htrain.damaged hdamaged).processPackets le_rfl⟩

end Send

def coalesced (datagram : Bytes) : Bool :=
  (parseLongHeader datagram).toOption.any fun header => header.pnOffset + header.length < datagram.length

def plainReply : List (Op .plain) :=
  [.datagramReceived (plainPacket .initial (List.replicate 8 2) (List.replicate 8 9) 0 [.crypto ⟨0, [3, 4, 5, 6]⟩])
    0 none
    0, .openStream, .sendStreamData 0 [7] true]

theorem datagrams_walked_coalesced : ∃ datagrams c',
    datagramsToSend 0 9 ((Session.start (plainClient .default none)).run plainReply).conn = .ok datagrams c' ∧
      ∃ d ∈ datagrams, coalesced d.data = true ∧ ∃ packets : List Bytes, packets.flatten = d.data ∧
        ∀ (receiver : Conn .plain) (now' : ℚ) (ecn : ℕ),
          processPackets now' ecn packets.flatten.length packets.flatten receiver =
            each (processAlone now' ecn) packets receiver := by
  have hfacts :
    (sentAt 0 9 ((Session.start (plainClient .default none)).run plainReply).conn).any coalesced = true ∧
      ((Session.start (plainClient .default none)).run plainReply).conn.config.version = quicV1 := by
    decide +kernel
  obtain ⟨data, hdata, hcoalesced⟩ := List.any_eq_true.1 hfacts.1
  obtain ⟨datagrams, c', hsend, d, hd, rfl⟩ := exists_of_mem_sentAt hdata
  obtain ⟨packets, hflatten, -, hwalked⟩ :=
    datagrams_walked (begins_plainClient .default none) plainReply 9 hfacts.2 hsend d hd
  have hintact : List.Forall₂ Damaged packets packets := List.forall₂_same.2 fun _ _ => .inl rfl
  exact ⟨datagrams, c', hsend, d, hd, hcoalesced, packets, hflatten,
    fun receiver now' ecn => hwalked packets hintact receiver now' ecn⟩

end Dsquic.Connection
