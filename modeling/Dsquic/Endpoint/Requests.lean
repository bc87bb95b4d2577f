import Dsquic.Connection.Plain
import Dsquic.Streams.EndOnce
import Mathlib.Data.List.TakeWhile

/-!
The requests of a client: the reference server answers the end of each stream with a file, and ends its own side.
-/

namespace Dsquic.Endpoint

open Lib Wire Streams Connection

section Request

def isSpace (byte : UInt8) : Bool := 9 ≤ byte && byte ≤ 13 || 28 ≤ byte && byte ≤ 32

def isLineEnd (byte : UInt8) : Bool := byte == 13 || byte == 10

def rstrip (drops : UInt8 → Bool) (line : Bytes) : Bytes := (line.reverse.dropWhile drops).reverse

def strip (drops : UInt8 → Bool) (line : Bytes) : Bytes := rstrip drops (line.dropWhile drops)

def getWord : Bytes := [71, 69, 84, 32]

/-- The request for a path, and none for a `ValueError`, whose text nothing reads. -/
def encodeRequest (path : Bytes) : Option Bytes :=
  if path.head? ≠ some 47 then none
  else if path.any (128 ≤ ·) then none
  else some (getWord ++ path ++ [13, 10])

/-- The path of a request, and none for an `HqError`, whose text nothing reads. -/
def parseRequest (data : Bytes) : Option Bytes :=
  if data.any (128 ≤ ·) then none
  else
    let line := rstrip isLineEnd data
    if line.any isLineEnd then none
    else if ¬getWord.isPrefixOf line then none
    else
      let path := strip isSpace (line.drop getWord.length)
      if path.head? ≠ some 47 then none
      else if (path.splitOn 47).contains [46, 46] then none
      else some path

variable {drops : UInt8 → Bool} {path line tail : Bytes} {byte : UInt8}

lemma rstrip_isPrefix (drops : UInt8 → Bool) (line : Bytes) : rstrip drops line <+: line :=
  List.reverse_suffix.1 (by rw [rstrip, List.reverse_reverse]; exact List.dropWhile_suffix drops)

lemma rstrip_eq_self_iff : rstrip drops line = line ↔ line.getLast?.all (!drops ·) = true := by
  rw [rstrip, List.reverse_eq_iff, ← List.head?_reverse]
  cases line.reverse with
  | nil => simp
  | cons byte rest =>
    cases hdrops : drops byte with
    | false => simp [hdrops]
    | true =>
      simp only [List.dropWhile_cons, hdrops, if_true, List.head?_cons, Option.all_some, Bool.not_true,
        Bool.false_eq_true, iff_false]
      intro heq
      have hle := (List.dropWhile_suffix drops (l := rest)).length_le
      rw [heq, List.length_cons] at hle
      omega

lemma head?_rstrip (h : line.head? = some byte) (hkept : drops byte = false) :
    (rstrip drops line).head? = some byte := by
  cases line with
  | nil => cases h
  | cons first rest =>
    cases h
    simp only [rstrip, List.reverse_cons, List.dropWhile_append, List.dropWhile_cons, hkept, Bool.false_eq_true,
      if_false]
    split_ifs <;> simp

lemma rstrip_append (h : line.head? = some byte) (hkept : drops byte = false) (front : Bytes)
    (htail : tail.all drops = true) : rstrip drops (front ++ line ++ tail) = front ++ rstrip drops line := by
  have htail : tail.reverse.dropWhile drops = [] := by
    rw [List.dropWhile_eq_nil_iff]
    exact fun byte hbyte => List.all_eq_true.1 htail byte (List.mem_reverse.1 hbyte)
  have hline : line.reverse.dropWhile drops ≠ [] := by
    intro hnil
    have hhead := head?_rstrip h hkept
    rw [rstrip, hnil] at hhead
    cases hhead
  simp [rstrip, List.dropWhile_append, htail, hline]

def Portable (path : Bytes) : Prop :=
  path.any isLineEnd = false ∧ path.getLast?.all (!isSpace ·) = true ∧ (path.splitOn 47).contains [46, 46] = false

instance (path : Bytes) : Decidable (Portable path) := inferInstanceAs (Decidable (_ ∧ _))

lemma parseRequest_line (hpath : path.head? = some 47) (hascii : path.any (128 ≤ ·) = false)
    (htail : tail.all isLineEnd = true) : parseRequest (getWord ++ path ++ tail) =
      if (rstrip isLineEnd path).any isLineEnd then none
      else if ((rstrip isSpace (rstrip isLineEnd path)).splitOn 47).contains [46, 46] then none
      else some (rstrip isSpace (rstrip isLineEnd path)) := by
  have hbytes : (getWord ++ path ++ tail).any (128 ≤ ·) = false := by
    have htail : tail.any (128 ≤ ·) = false := by
      rw [List.any_eq_false]
      intro byte hbyte
      have hend := List.all_eq_true.1 htail byte hbyte
      simp only [isLineEnd, Bool.or_eq_true, beq_iff_eq] at hend
      rcases hend with rfl | rfl <;> decide
    simp only [List.any_append, hascii, htail]
    rfl
  have hhead : (rstrip isLineEnd path).head? = some 47 := head?_rstrip hpath rfl
  have hstrip : strip isSpace (rstrip isLineEnd path) = rstrip isSpace (rstrip isLineEnd path) := by
    cases hline : rstrip isLineEnd path with
    | nil => rfl
    | cons byte rest =>
      rw [hline] at hhead
      cases hhead
      rfl
  have hword : (getWord ++ rstrip isLineEnd path).any isLineEnd = (rstrip isLineEnd path).any isLineEnd :=
    List.any_append.trans (Bool.false_or _)
  have hget : getWord.isPrefixOf (getWord ++ rstrip isLineEnd path) = true :=
    List.isPrefixOf_iff_prefix.2 (List.prefix_append _ _)
  simp only [parseRequest, hbytes, rstrip_append hpath (show isLineEnd 47 = false from rfl) getWord htail, hword,
    hget, List.drop_left, hstrip, head?_rstrip hhead (show isSpace 47 = false from rfl)]
  simp

/-- What a client can ask for is read back exactly if it is portable, whichever line end there is. -/
theorem request_round_trip {data : Bytes} (h : encodeRequest path = some data) :
    (parseRequest data = some path ↔ Portable path) ∧
      ∀ tail, tail.all isLineEnd = true → parseRequest (getWord ++ path ++ tail) = parseRequest data := by
  simp only [encodeRequest] at h
  split_ifs at h with hpath hascii
  cases h
  rw [not_not] at hpath
  rw [Bool.not_eq_true] at hascii
  refine ⟨?_, fun tail htail => (parseRequest_line hpath hascii htail).trans
    (parseRequest_line hpath hascii rfl).symm⟩
  rw [parseRequest_line hpath hascii rfl]
  constructor
  · intro hparse
    split_ifs at hparse with hline hdots
    have hspaces := Option.some.inj hparse
    have hends : rstrip isLineEnd path = path := (rstrip_isPrefix _ _).eq_of_length_le
      ((congrArg List.length hspaces).ge.trans (rstrip_isPrefix _ _).length_le)
    rw [hends] at hspaces hline hdots
    rw [hspaces] at hdots
    exact ⟨by simpa using hline, rstrip_eq_self_iff.1 hspaces, by simpa using hdots⟩
  · rintro ⟨hline, hspace, hdots⟩
    have hends : rstrip isLineEnd path = path := by
      refine rstrip_eq_self_iff.2 ?_
      cases hlast : path.getLast? with
      | none => rfl
      | some byte =>
        have hbyte := List.any_eq_false.1 hline byte (List.mem_of_getLast? hlast)
        simpa using hbyte
    rw [hends, rstrip_eq_self_iff.2 hspace, hline, hdots]
    rfl

theorem request_round_trip_file : encodeRequest [47, 97] = some [71, 69, 84, 32, 47, 97, 13, 10] ∧
    parseRequest [71, 69, 84, 32, 47, 97, 13, 10] = some [47, 97] :=
  have h : encodeRequest [47, 97] = some [71, 69, 84, 32, 47, 97, 13, 10] := by decide
  ⟨h, (request_round_trip h).1.2 (by decide)⟩

end Request

variable {env : Env}

def respond (resolve : Bytes → Option Bytes) (request : Bytes) : Bytes :=
  match parseRequest request with
  | none => []
  | some path => (resolve path).getD []

def serveEvent (resolve : Bytes → Option Bytes) (token : Bytes) (requests : Dict ℕ Bytes) :
    Event → M env (Dict ℕ Bytes)
  | .handshakeCompleted _ => do
    sendNewToken token
    return requests
  | .streamDataReceived event => do
    let buffer := (requests.get? event.streamId).getD [] ++ event.data
    doIf event.endStream (sendStreamData event.streamId (respond resolve buffer) true)
    return requests.set event.streamId buffer
  | _ => return requests

def serveEvents (resolve : Bytes → Option Bytes) (token : Bytes) : List Event → Dict ℕ Bytes → M env (Dict ℕ Bytes)
  | [], requests => return requests
  | event :: events, requests => do
    let requests ← serveEvent resolve token requests event
    serveEvents resolve token events requests

def serveRequests (resolve : Bytes → Option Bytes) (token : Bytes) (requests : Dict ℕ Bytes) :
    M env (Dict ℕ Bytes) := do
  let events ← modifyGet fun c => (c.events, { c with events := [] })
  serveEvents resolve token events requests

def ends (i : ℕ) : Event → Bool
  | .streamDataReceived event => event.endStream && event.streamId == i
  | _ => false

variable {i : ℕ} {event : Event}

lemma exists_of_ends (h : ends i event = true) :
    ∃ data, event = .streamDataReceived data ∧ data.endStream = true ∧ data.streamId = i := by
  cases event with
  | streamDataReceived data =>
    simp only [ends, Bool.and_eq_true, beq_iff_eq] at h
    exact ⟨data, rfl, h.1, h.2⟩
  | _ => cases h

def Answerable (events : List Event) : Prop :=
  ∀ event, .streamDataReceived event ∈ events → event.endStream = true → isBidirectional event.streamId = true

structure Due (m : StreamManager) (events : List Event) : Prop where
  paired : m.Paired
  known : ∀ event, .streamDataReceived event ∈ events → (m.recv? event.streamId).isSome = true
  once : ∀ i, events.countP (ends i) ≤ 1
  unanswered : ∀ i send, m.send? i = some send → send.finQueued = true → events.countP (ends i) = 0

structure Answers (m : StreamManager) (events : List Event) (m' : StreamManager) : Prop where
  recvs : ∀ i, m'.recv? i = m.recv? i
  sends : ∀ i, (m'.send? i).isSome = (m.send? i).isSome
  queued : ∀ i send', m'.send? i = some send' → send'.finQueued = true →
    (∃ send, m.send? i = some send ∧ send.finQueued = true) ∨ events.countP (ends i) ≠ 0

section Serving

variable {c : Conn env} {m m' m'' : StreamManager} {events events' : List Event}

lemma Answers.refl (m : StreamManager) (events : List Event) : Answers m events m :=
  ⟨fun _ => rfl, fun _ => rfl, fun _ send h hfin => .inl ⟨send, h, hfin⟩⟩

lemma Answers.paired (h : Answers m events m') (hpaired : m.Paired) : m'.Paired := by
  intro i
  rw [h.sends, h.recvs, hpaired i]

lemma Answers.trans (h : Answers m events m') (h' : Answers m' events' m'') :
    Answers m (events ++ events') m'' := by
  refine ⟨fun i => (h'.recvs i).trans (h.recvs i), fun i => (h'.sends i).trans (h.sends i),
    fun i send'' hsend'' hfin => ?_⟩
  rw [List.countP_append]
  rcases h'.queued i send'' hsend'' hfin with ⟨send', hsend', hfin'⟩ | hends
  · exact (h.queued i send' hsend' hfin').imp_right fun hends => by omega
  · exact .inr (by omega)

lemma sendStreamData_answers {event : StreamDataReceived} (hm : c.streams = some m)
    (h : Due m (.streamDataReceived event :: events)) (hend : event.endStream = true) (data : Bytes) :
    Ensures (sendStreamData event.streamId data true) c
      (fun _ c' => isBidirectional event.streamId = true ∧ c'.isClient = c.isClient ∧ c'.events = c.events ∧
        ∃ m', c'.streams = some m' ∧ Answers m [.streamDataReceived event] m')
      fun _ _ => isBidirectional event.streamId = false := by
  have hends : ends event.streamId (.streamDataReceived event) = true := by simp [ends, hend]
  have hpaired := h.paired event.streamId
  rw [h.known event List.mem_cons_self, Bool.true_and] at hpaired
  simp only [sendStreamData, ensures_state, hm, onStreams]
  refine (m.withSend_spec event.streamId _).mono ?_ ?_
  · rintro _ m' ⟨send, send', hsend, hwrite, rfl⟩
    have hbidi : isBidirectional event.streamId = true := by rw [← hpaired, hsend]; rfl
    refine ⟨hbidi, rfl, rfl, _, rfl, fun i => m.recv?_setSend _ _ _, fun i => ?_, fun i send'' hsend'' hfin => ?_⟩
    · rw [m.send?_setSend]
      split_ifs with hi
      · rw [hi, hsend]
        rfl
      · rfl
    · rw [m.send?_setSend] at hsend''
      split_ifs at hsend'' with hi
      · subst hi
        exact .inr (by simp [hends])
      · exact .inl ⟨send'', hsend'', hfin⟩
  · rintro e m' ⟨-, hfailed | ⟨send, hsend, hwrite⟩⟩
    · cases hsend : m.send? event.streamId with
      | none => rw [← hpaired, hsend]; rfl
      | some send =>
        rw [StreamManager.sendStream_eq_ok.2 hsend] at hfailed
        cases hfailed
    · -- a second FIN would answer an end that was answered before
      have hqueued : send.finQueued = true := by
        by_contra hfin
        rw [SendStream.write, if_neg hfin, if_pos rfl] at hwrite
        cases hwrite
      have hnone := h.unanswered event.streamId send hsend hqueued
      rw [List.countP_cons_of_pos hends] at hnone
      omega

lemma Due.tail (h : Due m (event :: events)) : Due m events := by
  refine ⟨h.paired, fun event hmem => h.known event (List.mem_cons_of_mem _ hmem), fun i => ?_,
    fun i send hsend hfin => ?_⟩
  · exact (List.sublist_cons_self event events).countP_le.trans (h.once i)
  · exact Nat.le_zero.1 ((List.sublist_cons_self event events).countP_le.trans (h.unanswered i send hsend hfin).le)

lemma Due.answered (h : Due m (event :: events)) (hanswers : Answers m [event] m') : Due m' events := by
  have hrest := h.tail
  refine ⟨hanswers.paired hrest.paired, fun event hmem => ?_, hrest.once, fun i send' hsend' hfin => ?_⟩
  · rw [hanswers.recvs]
    exact hrest.known event hmem
  · rcases hanswers.queued i send' hsend' hfin with ⟨send, hsend, hfin⟩ | hends
    · exact hrest.unanswered i send hsend hfin
    · have honce := h.once i
      have hsplit : (event :: events).countP (ends i) = [event].countP (ends i) + events.countP (ends i) := by
        rw [← List.countP_append, List.singleton_append]
      omega

lemma serveEvent_answers (resolve : Bytes → Option Bytes) (token : Bytes) (requests : Dict ℕ Bytes)
    (hm : c.streams = some m) (hserver : c.isClient = false) (h : Due m (event :: events)) :
    Ensures (serveEvent resolve token requests event) c
      (fun _ c' => Answerable [event] ∧ c'.isClient = false ∧ c'.events = c.events ∧
        ∃ m', c'.streams = some m' ∧ Answers m [event] m')
      fun _ _ => ¬Answerable [event] := by
  cases event with
  | streamDataReceived event =>
    simp only [serveEvent, ensures_flow]
    refine ⟨fun hend => ?_, fun hend => ⟨?_, hserver, trivial, m, hm, .refl _ _⟩⟩
    · refine (sendStreamData_answers hm h hend _).mono (fun _ c' hsent => ?_) fun _ _ huni hall => ?_
      · obtain ⟨hbidi, hclient, hevents, hanswers⟩ := hsent
        refine ⟨fun other hother _ => ?_, hclient.trans hserver, hevents, hanswers⟩
        cases List.mem_singleton.1 hother
        exact hbidi
      · rw [hall event List.mem_cons_self hend] at huni
        cases huni
    · intro other hother hends
      cases List.mem_singleton.1 hother
      exact absurd hends hend
  | handshakeCompleted alpn =>
    simp only [serveEvent, sendNewToken, ensures_flow, hserver]
    refine ⟨fun hclient => absurd hclient Bool.false_ne_true,
      fun _ => ⟨fun event hmem => ?_, hserver, rfl, m, hm, .refl _ _⟩⟩
    cases List.mem_singleton.1 hmem
  | _ =>
    refine ⟨fun event hmem => ?_, hserver, rfl, m, hm, .refl _ _⟩
    cases List.mem_singleton.1 hmem

lemma answerable_cons : Answerable (event :: events) ↔ Answerable [event] ∧ Answerable events := by
  refine ⟨fun h => ⟨fun e he => ?_, fun e he => h e (List.mem_cons_of_mem _ he)⟩, fun h e he => ?_⟩
  · exact h e (List.mem_singleton.1 he ▸ List.mem_cons_self)
  · exact (List.mem_cons.1 he).elim (fun he => h.1 e (he ▸ List.mem_cons_self)) (h.2 e)

lemma serveEvents_answers (resolve : Bytes → Option Bytes) (token : Bytes) (events : List Event)
    (requests : Dict ℕ Bytes)
    (hm : c.streams = some m) (hserver : c.isClient = false) (h : Due m events) :
    Ensures (serveEvents resolve token events requests) c
      (fun _ c' => Answerable events ∧ c'.isClient = false ∧ c'.events = c.events ∧
        ∃ m', c'.streams = some m' ∧ Answers m events m')
      fun _ _ => ¬Answerable events := by
  induction events generalizing c m requests with
  | nil => exact ⟨fun _ hmem => absurd hmem List.not_mem_nil, hserver, rfl, m, hm, .refl m []⟩
  | cons event events ih =>
    rw [answerable_cons, serveEvents, ensures_bind]
    refine (serveEvent_answers resolve token requests hm hserver h).mono (fun requests₁ c₁ h₁ => ?_)
      fun _ _ hnot hall => hnot hall.1
    obtain ⟨hone, hserver₁, hevents₁, m₁, hm₁, hanswers₁⟩ := h₁
    refine (ih requests₁ hm₁ hserver₁ (h.answered hanswers₁)).mono (fun _ c₂ h₂ => ?_) fun _ _ hnot hall =>
      hnot hall.2
    obtain ⟨hrest, hserver₂, hevents₂, m₂, hm₂, hanswers₂⟩ := h₂
    exact ⟨⟨hone, hrest⟩, hserver₂, hevents₂.trans hevents₁, m₂, hm₂, hanswers₁.trans hanswers₂⟩

end Serving

/-- A connection of the server with the requests on its streams; `raised` says that an exception escaped the loop
over the events. A frame that the streams refuse closes the connection, whose later frames are handled all the
same. -/
structure Service (env : Env) where
  conn : Conn env
  requests : Dict ℕ Bytes
  raised : Bool

inductive Step
  | stream (frame : Stream)
  | serve
  | nextFrame (streamId : ℕ) (maxBytes : ℤ)
  | acked (frame : Stream)
  | lost (frame : Stream)
  | maxData (maximum : ℕ)
  | maxStreamData (streamId maximum : ℕ)
  | maxStreams (maximum : ℕ) (bidirectional : Bool)

def takeFrame (streamId : ℕ) (maxBytes : ℤ) : M env PUnit := do
  let c ← get
  match c.streams with
  | none => pure ⟨⟩
  | some streams => do
    let _ ← onStreams streams (StreamManager.nextFrame streamId maxBytes)

namespace Service

def start (c : Conn env) : Service env := ⟨c, .empty, false⟩

def exec (s : Service env) (m : M env PUnit) : Service env := { s with conn := finalState m s.conn }

def received (s : Service env) (m : M env PUnit) : Service env := s.exec (tryCatch m closeOnError)

def step (resolve : Bytes → Option Bytes) (token : Bytes) (s : Service env) : Step → Service env
  | .stream frame => s.received (handleStream frame)
  | .serve =>
    if s.raised then s
    else
      match serveRequests resolve token s.requests s.conn with
      | .ok requests c => { s with conn := c, requests := requests }
      | .error _ c => { s with conn := c, raised := true }
  | .nextFrame streamId maxBytes => s.exec (takeFrame streamId maxBytes)
  | .acked frame => s.received (onFrameAcked (.stream frame))
  | .lost frame => s.exec (requeueFrame .oneRtt (.stream frame))
  | .maxData maximum => s.exec (modify fun c => { c with streams := c.streams.map (·.onMaxData maximum) })
  | .maxStreamData streamId maximum => s.received (handleMaxStreamData streamId maximum)
  | .maxStreams maximum bidirectional => s.received (handleMaxStreams maximum bidirectional)

def run (resolve : Bytes → Option Bytes) (token : Bytes) (s : Service env) (steps : List Step) : Service env :=
  steps.foldl (step resolve token) s

end Service

structure Attended (m : StreamManager) (events : List Event) : Prop where
  bounded : ∀ i recv, m.recv? i = some recv → recv.Bounded
  reported : ∀ i recv, m.recv? i = some recv → recv.isFullyRead = false →
    events.countP (ends i) = 0 ∧ ∀ send, m.send? i = some send → send.finQueued = false

structure Idle (m m' : StreamManager) : Prop where
  recvs : ∀ i, m'.recv? i = m.recv? i
  sends : ∀ i, (m'.send? i).map (·.finQueued) = (m.send? i).map (·.finQueued)

section Attendance

variable {c c' : Conn env} {m m' : StreamManager} {events : List Event} {frame : Stream} {recv : RecvStream}

lemma Idle.refl (m : StreamManager) : Idle m m := ⟨fun _ => rfl, fun _ => rfl⟩

lemma Idle.of_streams_eq (h : m'.streams = m.streams) : Idle m m' :=
  ⟨fun i => by simp only [StreamManager.recv?, h], fun i => by simp only [StreamManager.send?, h]⟩

lemma idle_setSend {send send' : SendStream} (hsend : m.send? i = some send)
    (hfin : send'.finQueued = send.finQueued) : Idle m (m.setSend i send') := by
  refine ⟨fun j => m.recv?_setSend _ _ _, fun j => ?_⟩
  rw [m.send?_setSend]
  split_ifs with hj
  · rw [hj, hsend, Option.map_some, Option.map_some, hfin]
  · rfl

lemma Idle.finQueued (h : Idle m m') {send' : SendStream} (hsend' : m'.send? i = some send') :
    ∃ send, m.send? i = some send ∧ send.finQueued = send'.finQueued := by
  have hsame := h.sends i
  rw [hsend', Option.map_some] at hsame
  exact Option.map_eq_some_iff.1 hsame.symm

lemma Idle.due (h : Idle m m') (hdue : Due m events) : Due m' events := by
  refine ⟨fun i => ?_, fun event hmem => ?_, hdue.once, fun i send' hsend' hfin => ?_⟩
  · have hsome : (m'.send? i).isSome = (m.send? i).isSome := by
      rw [← Option.isSome_map (f := (·.finQueued)), h.sends, Option.isSome_map]
    rw [hsome, h.recvs, hdue.paired i]
  · rw [h.recvs]
    exact hdue.known event hmem
  · obtain ⟨send, hsend, hsame⟩ := h.finQueued hsend'
    exact hdue.unanswered i send hsend (hsame.trans hfin)

lemma Idle.attended (h : Idle m m') (hattended : Attended m events) : Attended m' events := by
  refine ⟨fun i recv hrecv => hattended.bounded i recv ((h.recvs i).symm.trans hrecv),
    fun i recv hrecv hread => ?_⟩
  obtain ⟨hnone, hopen⟩ := hattended.reported i recv ((h.recvs i).symm.trans hrecv) hread
  refine ⟨hnone, fun send' hsend' => ?_⟩
  obtain ⟨send, hsend, hsame⟩ := h.finQueued hsend'
  rw [← hsame]
  exact hopen send hsend

lemma Attended.bounded_found (h : Attended m events) (hfound : m.Finds i recv) :
    recv.Bounded := by
  rcases hfound with hrecv | ⟨-, limit, rfl⟩
  · exact h.bounded i recv hrecv
  · exact RecvStream.bounded_new i limit

lemma Attended.reported_found (h : Attended m events) (hdue : Due m events)
    (hfound : m.Finds i recv) (hread : recv.isFullyRead = false) :
    events.countP (ends i) = 0 ∧ ∀ send, m.send? i = some send → send.finQueued = false := by
  rcases hfound with hrecv | ⟨hnone, -⟩
  · exact h.reported i recv hrecv hread
  · refine ⟨List.countP_eq_zero.2 fun event hmem hends => ?_, fun send hsend => ?_⟩
    · obtain ⟨data, rfl, -, hid⟩ := exists_of_ends hends
      have hknown := hdue.known data hmem
      rw [hid, hnone] at hknown
      cases hknown
    · have hpaired := hdue.paired i
      rw [hsend, hnone] at hpaired
      cases hpaired

lemma Attended.handled (h : Attended m events) (hdue : Due m events) {event : Option StreamDataReceived}
    (hm : m.Handled frame event m') (hpreserves : m.Preserves m') :
    Due m' (events ++ (event.map Event.streamDataReceived).toList) ∧
      Attended m' (events ++ (event.map Event.streamDataReceived).toList) := by
  obtain ⟨recv, hfound, hacc, hevent, hrecv'⟩ := hm.taken
  have haccepted := (h.bounded_found hfound).accept hacc
  have hbefore := h.reported_found hdue hfound
  have hends : ∀ i, (event.map Event.streamDataReceived).toList.countP (ends i) ≠ 0 →
      i = frame.streamId ∧ recv.isFullyRead = false ∧ (recv.accept frame).read.2.isFullyRead = true := by
    intro i hcount
    obtain ⟨new, hmem, hend⟩ := List.countP_pos_iff.1 (Nat.pos_of_ne_zero hcount)
    obtain ⟨data, rfl, hlast, rfl⟩ := exists_of_ends hend
    obtain ⟨data', hdata', hsame⟩ := Option.map_eq_some_iff.1 (Option.mem_toList.1 hmem)
    cases hsame
    rw [hevent] at hdata'
    obtain ⟨hopen, hread⟩ := haccepted.event_ends hdata' hlast
    rw [RecvStream.isFullyRead_accept] at hopen
    exact ⟨RecvStream.streamId_event hdata', hopen, hread⟩
  have hone : ∀ i, (event.map Event.streamDataReceived).toList.countP (ends i) ≤ 1 := by
    intro i
    refine List.countP_le_length.trans ?_
    cases event with
    | none => exact Nat.zero_le 1
    | some data => exact le_rfl
  refine ⟨⟨hdue.paired.handled hm, fun data hmem => ?_, fun i => ?_, fun i send' hsend' hfin => ?_⟩,
    fun i recv' hrecv => ?_, fun i recv' hrecv hread => ?_⟩
  · rcases List.mem_append.1 hmem with hmem | hmem
    · exact hpreserves.recvs _ (hdue.known data hmem)
    · obtain ⟨data', hdata', hsame⟩ := Option.map_eq_some_iff.1 (Option.mem_toList.1 hmem)
      cases hsame
      rw [hevent] at hdata'
      rw [RecvStream.streamId_event hdata', hrecv']
      rfl
  · rw [List.countP_append]
    by_cases hcount : (event.map Event.streamDataReceived).toList.countP (ends i) = 0
    · rw [hcount]
      exact hdue.once i
    · obtain ⟨rfl, hopen, -⟩ := hends i hcount
      rw [(hbefore hopen).1, Nat.zero_add]
      exact hone _
  · obtain ⟨send, hsend, hfin⟩ := hpreserves.finQueued hsend' hfin
    rw [List.countP_append, hdue.unanswered i send hsend hfin, Nat.zero_add]
    by_contra hcount
    obtain ⟨rfl, hopen, -⟩ := hends i hcount
    rw [(hbefore hopen).2 send hsend] at hfin
    cases hfin
  · by_cases hi : i = frame.streamId
    · subst hi
      cases hrecv'.symm.trans hrecv
      exact haccepted.readOut.creditUpdate
    · exact h.bounded i recv' ((hm.recv?_of_ne hi).symm.trans hrecv)
  · have hopen : events.countP (ends i) = 0 ∧ ∀ send, m.send? i = some send → send.finQueued = false := by
      by_cases hi : i = frame.streamId
      · subst hi
        cases hrecv'.symm.trans hrecv
        refine hbefore ?_
        rw [RecvStream.isFullyRead_creditUpdate] at hread
        by_contra hfull
        have hfull : (recv.accept frame).isFullyRead = true := by simpa using hfull
        rw [RecvStream.isFullyRead_read hfull] at hread
        cases hread
      · exact h.reported i recv' ((hm.recv?_of_ne hi).symm.trans hrecv) hread
    refine ⟨?_, fun send' hsend' => ?_⟩
    · rw [List.countP_append, hopen.1, Nat.zero_add]
      by_contra hcount
      obtain ⟨rfl, -, hfull⟩ := hends i hcount
      cases hrecv'.symm.trans hrecv
      rw [RecvStream.isFullyRead_creditUpdate, hfull] at hread
      cases hread
    · by_contra hfin
      obtain ⟨send, hsend, hfin⟩ := hpreserves.finQueued hsend' (by simpa using hfin)
      rw [hopen.2 send hsend] at hfin
      cases hfin

lemma Due.refused (h : Due m events) (hm : m.Refused frame m') : Due m' events := by
  have hpreserves := StreamManager.Preserves.refused hm
  refine ⟨h.paired.refused hm, fun event hmem => hpreserves.recvs _ (h.known event hmem), h.once,
    fun i send' hsend' hfin => ?_⟩
  obtain ⟨send, hsend, hfin⟩ := hpreserves.finQueued hsend' hfin
  exact h.unanswered i send hsend hfin

lemma Attended.refused (h : Attended m events) (hdue : Due m events) (hm : m.Refused frame m') :
    Attended m' events := by
  refine ⟨fun i recv' hrecv' => ?_, fun i recv' hrecv' hread => ?_⟩
  · by_cases hi : i = frame.streamId
    · subst hi
      obtain ⟨recv, hfound, hbounded, -⟩ := hm.taken hrecv'
      exact hbounded (h.bounded_found hfound)
    · exact h.bounded i recv' ((hm.recv?_of_ne hi).symm.trans hrecv')
  · have hopen : events.countP (ends i) = 0 ∧ ∀ send, m.send? i = some send → send.finQueued = false := by
      by_cases hi : i = frame.streamId
      · subst hi
        obtain ⟨recv, hfound, -, hsame⟩ := hm.taken hrecv'
        exact h.reported_found hdue hfound (hsame.symm.trans hread)
      · exact h.reported i recv' ((hm.recv?_of_ne hi).symm.trans hrecv') hread
    refine ⟨hopen.1, fun send' hsend' => ?_⟩
    by_contra hfin
    obtain ⟨send, hsend, hfin⟩ := (StreamManager.Preserves.refused hm).finQueued hsend' (by simpa using hfin)
    rw [hopen.2 send hsend] at hfin
    cases hfin

lemma countP_ends_terminated (events : List Event) (errorCode : ℕ) (reason : String) (i : ℕ) :
    (events ++ [Event.connectionTerminated errorCode reason]).countP (ends i) = events.countP (ends i) := by
  rw [List.countP_append]
  rfl

lemma Due.terminated (h : Due m events) (errorCode : ℕ) (reason : String) :
    Due m (events ++ [.connectionTerminated errorCode reason]) where
  paired := h.paired
  known data hmem := h.known data ((List.mem_append.1 hmem).resolve_right (by simp))
  once i := (countP_ends_terminated events errorCode reason i).le.trans (h.once i)
  unanswered i send hsend hfin :=
    (countP_ends_terminated events errorCode reason i).trans (h.unanswered i send hsend hfin)

lemma Attended.terminated (h : Attended m events) (errorCode : ℕ) (reason : String) :
    Attended m (events ++ [.connectionTerminated errorCode reason]) where
  bounded := h.bounded
  reported i recv hrecv hread := by
    rw [countP_ends_terminated]
    exact h.reported i recv hrecv hread

lemma Answers.attended (hanswers : Answers m events m') (h : Attended m events) : Attended m' [] := by
  refine ⟨fun i recv hrecv => h.bounded i recv ((hanswers.recvs i).symm.trans hrecv), fun i recv hrecv hread => ?_⟩
  obtain ⟨hnone, hopen⟩ := h.reported i recv ((hanswers.recvs i).symm.trans hrecv) hread
  refine ⟨rfl, fun send' hsend' => ?_⟩
  by_contra hfin
  rcases hanswers.queued i send' hsend' (by simpa using hfin) with ⟨send, hsend, hfin⟩ | hends
  · rw [hopen send hsend] at hfin
    cases hfin
  · exact hends hnone

lemma Answers.due (hanswers : Answers m events m') (h : Due m events) : Due m' [] :=
  ⟨hanswers.paired h.paired, fun _ hmem => absurd hmem List.not_mem_nil, fun _ => Nat.zero_le 1,
    fun _ _ _ _ => rfl⟩

end Attendance

namespace Service

structure Sound (c : Conn env) (m : StreamManager) : Prop where
  server : c.isClient = false
  streams : c.streams = some m
  due : Due m c.events
  attended : Attended m c.events

variable {s : Service env} {c : Conn env} {m : StreamManager} {resolve : Bytes → Option Bytes} {token : Bytes}
  {act : M env PUnit}

def Idles (c : Conn env) (m : StreamManager) (c' : Conn env) : Prop :=
  c'.isClient = c.isClient ∧ c'.events = c.events ∧ ∃ m', c'.streams = some m' ∧ Idle m m'

lemma Sound.exec (h : Sound c m) (hact : Always act c (Idles c m)) : ∃ m', Sound (finalState act c) m' := by
  obtain ⟨hclient, hevents, m', hm', hidle⟩ := hact.final
  refine ⟨m', hclient.trans h.server, hm', ?_, ?_⟩
  · rw [hevents]
    exact hidle.due h.due
  · rw [hevents]
    exact hidle.attended h.attended

lemma Sound.close (h : Sound c m) (errorCode : ℕ) (reason : String) (frameType : Option ℕ) :
    Sound ((c.note (.aborted c.state)).close errorCode reason frameType) m := by
  unfold Conn.close
  split_ifs
  all_goals exact ⟨h.server, h.streams, h.due, h.attended⟩

lemma Sound.received (h : ∃ m, Sound (finalState act c) m) :
    ∃ m, Sound (finalState (tryCatch act closeOnError) c) m := by
  refine Ensures.final (P := fun c => ∃ m, Sound c m) ?_
  simp only [ensures_tryCatch]
  refine (ensures_final_iff.2 h).mono (fun _ _ h => h) ?_
  rintro e c ⟨m, h⟩
  cases e with
  | connection errorCode reason frameType =>
    have hclosed := h.close errorCode reason frameType
    rw [closeOnError, ensures_modify]
    exact ⟨m, hclosed.server, hclosed.streams, hclosed.due.terminated _ _, hclosed.attended.terminated _ _⟩
  | _ => exact ⟨m, h⟩

lemma Sound.stream (h : Sound c m) (frame : Stream) : ∃ m', Sound (finalState (handleStream frame) c) m' := by
  refine Ensures.final (P := fun c => ∃ m', Sound c m') ?_
  simp only [handleStream, ensures_state, h.streams, ensures_tryCatch, onStreams, ensures_throw]
  refine (m.handleStream_spec frame).mono ?_ ?_
  · intro out m' hhandled
    obtain ⟨hdue, hattended⟩ := h.attended.handled h.due hhandled (.handled hhandled)
    exact ⟨m', h.server, rfl, hdue, hattended⟩
  · rintro _ m' ⟨-, hrefused⟩
    exact ⟨m', h.server, rfl, h.due.refused hrefused, h.attended.refused h.due hrefused⟩

lemma Sound.serves (h : Sound c m) (resolve : Bytes → Option Bytes) (token : Bytes) (requests : Dict ℕ Bytes) :
    Ensures (serveRequests resolve token requests) c
      (fun _ c' => Answerable c.events ∧ c'.isClient = false ∧ c'.events = [] ∧
        ∃ m', c'.streams = some m' ∧ Answers m c.events m')
      fun _ _ => ¬Answerable c.events := by
  simp only [serveRequests, ensures_state]
  exact serveEvents_answers resolve token c.events requests h.streams h.server h.due

lemma withSend_idle {f : SendStream → Except Raised SendStream}
    (hf : ∀ send send', f send = .ok send' → send'.finQueued = send.finQueued) :
    Always (onStreams m (StreamManager.withSend i f)) c (Idles c m) := by
  simp only [onStreams, ensures_zoom]
  refine (m.withSend_spec i f).mono ?_ ?_
  · rintro _ m' ⟨send, send', hsend, hwrite, rfl⟩
    exact ⟨rfl, rfl, _, rfl, idle_setSend hsend (hf send send' hwrite)⟩
  · rintro _ m' ⟨rfl, -⟩
    exact ⟨rfl, rfl, m', rfl, .refl m'⟩

lemma finQueued_nextFrame (send : SendStream) (maxBytes credit : ℤ) :
    (send.nextFrame maxBytes credit).2.finQueued = send.finQueued := by
  rcases send.nextFrame_cases maxBytes credit with hnone | ⟨frame, frames, -, hlost⟩ | ⟨size, fin, -, -, -, hnew⟩
  · rw [hnone]
  · rw [hlost]
  · rw [hnew]
    rfl

lemma Sound.step (h : Sound s.conn m) (step : Step) (hraised : (s.step resolve token step).raised = false) :
    ∃ m', Sound (s.step resolve token step).conn m' := by
  cases step with
  | stream frame => exact Sound.received (h.stream frame)
  | serve =>
    simp only [Service.step] at hraised ⊢
    split_ifs at hraised ⊢ with hbefore
    · exact ⟨m, h⟩
    · split at hraised
      · next requests c hserve =>
        obtain ⟨-, hclient, hevents, m', hm', hanswers⟩ := (h.serves resolve token s.requests).of_ok hserve
        refine ⟨m', hclient, hm', ?_, ?_⟩
        · change Due m' c.events
          rw [hevents]
          exact hanswers.due h.due
        · change Attended m' c.events
          rw [hevents]
          exact hanswers.attended h.attended
      · cases hraised
  | nextFrame streamId maxBytes =>
    refine h.exec ?_
    simp only [takeFrame, ensures_state, h.streams, onStreams]
    refine (m.nextFrame_spec streamId maxBytes).mono ?_ ?_
    · rintro _ m' ⟨send, hsend, -, rfl⟩
      have hidle := idle_setSend hsend (finQueued_nextFrame send maxBytes ((m.maxData : ℤ) - m.dataSent))
      exact ⟨rfl, rfl, _, rfl, { hidle with }⟩
    · rintro _ m' ⟨rfl, -⟩
      exact ⟨rfl, rfl, m', rfl, .refl m'⟩
  | acked frame =>
    refine Sound.received (h.exec ?_)
    simp only [onFrameAcked, ensures_state, h.streams]
    refine withSend_idle fun send send' hsend' => ?_
    cases hsend'
    rfl
  | lost frame =>
    refine h.exec ?_
    simp only [requeueFrame, ensures_state, h.streams]
    refine withSend_idle fun send send' hsend' => ?_
    cases hsend'
    simp only [SendStream.requeue]
    split_ifs <;> rfl
  | maxData maximum =>
    have hmodify : Always (modify fun c => { c with streams := c.streams.map (·.onMaxData maximum) } : M env PUnit)
        s.conn (Idles s.conn m) := by
      simp only [ensures_modify, h.streams, Option.map_some]
      exact ⟨rfl, rfl, _, rfl, .of_streams_eq rfl⟩
    exact h.exec hmodify
  | maxStreamData streamId maximum =>
    refine Sound.received (h.exec ?_)
    simp only [handleMaxStreamData, ensures_state, h.streams]
    refine withSend_idle fun send send' hsend' => ?_
    cases hsend'
    rfl
  | maxStreams maximum bidirectional =>
    refine Sound.received (h.exec ?_)
    simp only [handleMaxStreams, ensures_flow, h.streams, Option.map_some]
    refine ⟨fun _ => ⟨rfl, rfl, m, h.streams, .refl m⟩, fun _ => ⟨rfl, rfl, _, rfl, ?_⟩⟩
    cases bidirectional
    all_goals exact .of_streams_eq rfl

lemma raised_of_step {step : Step} (h : s.raised = true) : (s.step resolve token step).raised = true := by
  cases step with
  | serve => simp only [Service.step, h, if_true]
  | _ => exact h

lemma run_concat (s : Service env) (steps : List Step) (step : Step) :
    s.run resolve token (steps ++ [step]) = (s.run resolve token steps).step resolve token step := by
  simp [run]

lemma Sound.run (h : Sound s.conn m) (steps : List Step) (hraised : (s.run resolve token steps).raised = false) :
    ∃ m', Sound (s.run resolve token steps).conn m' := by
  induction steps using List.reverseRecOn with
  | nil => exact ⟨m, h⟩
  | append_singleton steps step ih =>
    rw [run_concat] at hraised ⊢
    have hbefore : (s.run resolve token steps).raised = false := by
      by_contra hbefore
      rw [raised_of_step (by simpa using hbefore)] at hraised
      cases hraised
    obtain ⟨m₁, h₁⟩ := ih hbefore
    exact h₁.step step hraised

end Service

/-- The server looks at its events without an exception exactly where no unidirectional stream has ended, also
after frames that closed the connection. -/
theorem requests_served_iff {c : Conn env} (hserver : c.isClient = false)
    {localLimits peerLimits : FlowControlLimits}
    (hstreams : c.streams = some (.new false localLimits peerLimits))
    (hevents : ∀ data, .streamDataReceived data ∉ c.events)
    (resolve : Bytes → Option Bytes) (token : Bytes) (steps : List Step)
    (hraised : ((Service.start c).run resolve token steps).raised = false) :
    (∃ requests c', serveRequests resolve token ((Service.start c).run resolve token steps).requests
        ((Service.start c).run resolve token steps).conn = .ok requests c') ↔
      Answerable ((Service.start c).run resolve token steps).conn.events := by
  have hnone : ∀ i, c.events.countP (ends i) = 0 := fun i => List.countP_eq_zero.2 fun event hmem hends => by
    obtain ⟨data, rfl, -⟩ := exists_of_ends hends
    exact hevents data hmem
  have hempty : ∀ i, (StreamManager.new false localLimits peerLimits).recv? i = none ∧
      (StreamManager.new false localLimits peerLimits).send? i = none := fun i => ⟨rfl, rfl⟩
  have hstart : Service.Sound (Service.start c).conn (.new false localLimits peerLimits) := by
    refine ⟨hserver, hstreams,
      ⟨fun i => ?_, fun data hmem => absurd hmem (hevents data), fun i => (hnone i).le.trans
      (Nat.zero_le 1), fun i _ _ _ => hnone i⟩, fun i recv hrecv => ?_, fun i recv hrecv => ?_⟩
    · rw [(hempty i).1, (hempty i).2]
      rfl
    · rw [(hempty i).1] at hrecv
      cases hrecv
    · rw [(hempty i).1] at hrecv
      cases hrecv
  obtain ⟨m, hsound⟩ := hstart.run steps hraised
  have hserves := hsound.serves resolve token ((Service.start c).run resolve token steps).requests
  constructor
  · rintro ⟨requests, c', hok⟩
    exact (hserves.of_ok hok).1
  · intro hall
    cases hresult : serveRequests resolve token ((Service.start c).run resolve token steps).requests
        ((Service.start c).run resolve token steps).conn with
    | ok requests c' => exact ⟨requests, c', rfl⟩
    | error e c' => exact absurd hall (hserves.of_error hresult)

def freshServer : Conn .plain :=
  { plainServer .default with
    streams := some (.new false (flowLimits (plainServer .default).localParameters) ⟨16, 16, 16, 16, 1, 0⟩) }

def requestSteps : List Step :=
  [.stream ⟨0, 0, [71, 69, 84, 32], false⟩, .serve, .stream ⟨1, 0, [71], false⟩,
    .stream ⟨0, 4, [47, 97, 13, 10], true⟩, .stream ⟨0, 4, [47, 97, 13, 10], true⟩]

theorem requests_served_iff_file : ∃ requests c', serveRequests (fun _ => some [1, 2, 3]) []
    ((Service.start freshServer).run (fun _ => some [1, 2, 3]) [] requestSteps).requests
    ((Service.start freshServer).run (fun _ => some [1, 2, 3]) [] requestSteps).conn = .ok requests c' := by
  refine (requests_served_iff (c := freshServer) rfl rfl ?_ (fun _ => some [1, 2, 3]) [] requestSteps
    (by decide +kernel)).2 ?_
  · exact fun data hmem => List.not_mem_nil hmem
  · have hevents : ((Service.start freshServer).run (fun _ => some [1, 2, 3]) [] requestSteps).conn.events =
        [.connectionTerminated streamStateError "stream 1 was never opened",
          .streamDataReceived ⟨0, [47, 97, 13, 10], true⟩] := by
      decide +kernel
    rw [hevents]
    intro event hmem _
    simp only [List.mem_cons, reduceCtorEq, false_or, List.not_mem_nil, or_false,
      Event.streamDataReceived.injEq] at hmem
    rw [hmem]
    rfl

theorem unidirectional_request_raises :
    ((Service.start freshServer).run (fun _ => none) [] [.stream ⟨2, 0, [], true⟩]).conn.closeFrame = none ∧
    ((Service.start freshServer).run (fun _ => none) [] [.stream ⟨2, 0, [], true⟩, .serve]).raised = true := by
  decide +kernel

end Dsquic.Endpoint
