import Dsquic.Connection.Plain
import Dsquic.Connection.Run

/-!
The order of a connection's states, and of the events that report its end.
-/

namespace Dsquic.Connection

open Lib Wire Streams Recovery

def ConnectionState.rank : ConnectionState → ℕ
  | .handshaking => 0
  | .connected => 1
  | .closing => 2
  | .draining => 3
  | .terminated => 4

def Note.orderly : Note → Bool
  | .completed state => state = .handshaking || state = .connected
  | .closing state => state ≠ .terminated
  | _ => true

namespace Core

variable {s s' : Core}

def Alive (s : Core) : Prop := ∀ frame, Note.handled .terminated frame ∉ s.trace

def Orderly (s : Core) : Prop := ∀ note ∈ s.trace, note.orderly = true

lemma Orderly.of_subset (h : s'.Orderly) (hsub : s.trace ⊆ s'.trace) : s.Orderly :=
  fun note hnote => h note (hsub hnote)

lemma Live.state_ne_terminated (h : s.Live) (halive : s.Alive) : s.state ≠ .terminated := by
  rcases h with h | ⟨frame, -, h⟩
  · simp [h]
  · intro hstate
    rw [hstate] at h
    exact halive frame h

lemma alive_close (h : s.Alive) (frame : ConnectionClose) : (s.close frame).Alive := by
  simp only [close]
  split_ifs
  · exact h
  · simpa [Alive, note] using h

lemma Alive.effect (h : s.Alive) (heffect : Effect s s') : s'.Alive := by
  cases heffect with
  | handle frame hstate =>
    intro other hmem
    rcases List.mem_cons.1 hmem with heq | hmem
    · exact hstate (Note.handled.inj heq).1.symm
    · exact h other hmem
  | close frame => exact alive_close h frame
  | abort frame errorCode reason =>
    have hnote : (s.note (.aborted s.state)).Alive := by simpa [Alive, note] using h
    exact alive_close hnote frame
  | processClose level packetNumber ecn payload frame reason hnew hcloses hstate =>
    intro other hmem
    have hmem := (List.mem_cons.1 hmem).resolve_left Note.noConfusion
    rcases List.mem_cons.1 hmem with heq | hmem
    · exact hstate (Note.handled.inj heq).1.symm
    · exact h other ((List.mem_cons.1 hmem).resolve_left Note.noConfusion)
  | opened | unveil | process | reassemble | secret | rotate | discard | confirm | complete | drain | expire | emit
  | oweProbes | protect | send | count | conclude | acknowledge | sync | adopt | retried | agree =>
    simpa [Alive, note, install, onQueue, onInbox, report, process, drain] using h
  | _ => exact h

lemma rank_close (frame : ConnectionClose) (horderly : (s.close frame).Orderly) :
    s.state.rank ≤ (s.close frame).state.rank := by
  simp only [close] at horderly ⊢
  split_ifs at horderly ⊢ with hstate
  · exact le_refl _
  · have hnote : s.state ≠ .terminated := by
      simpa [Note.orderly] using horderly (.closing s.state) List.mem_cons_self
    cases hs : s.state with
    | terminated => exact absurd hs hnote
    | _ => simp_all [ConnectionState.rank]

lemma rank_effect (heffect : Effect s s') (halive : s.Alive) (horderly : s'.Orderly) :
    s.state.rank ≤ s'.state.rank := by
  cases heffect with
  | complete alpn hlive =>
    have hnote : s.state = .handshaking ∨ s.state = .connected := by
      simpa [Note.orderly] using horderly (.completed s.state) List.mem_cons_self
    rcases hnote with h | h <;> simp [h, report, ConnectionState.rank]
  | drain errorCode reason hlive =>
    have hstate := hlive.state_ne_terminated halive
    cases hs : s.state with
    | terminated => exact absurd hs hstate
    | _ => simp [drain, report, ConnectionState.rank]
  | processClose level packetNumber ecn payload frame reason hnew hcloses hstate =>
    cases hs : s.state with
    | terminated => exact absurd hs hstate
    | _ => simp [ConnectionState.rank]
  | close frame => exact rank_close frame horderly
  | abort frame errorCode reason => exact rank_close (s := s.note (.aborted s.state)) frame horderly
  | negotiate versions =>
    cases s.state <;> simp [report, ConnectionState.rank]
  | expire reason =>
    cases s.state <;> simp [report, ConnectionState.rank]
  | terminate =>
    cases s.state <;> simp [ConnectionState.rank]
  | _ => exact le_refl _

lemma rank_path (hpath : Path s s') (halive : s.Alive) (horderly : s'.Orderly) : s.state.rank ≤ s'.state.rank := by
  have hinvariant := hpath.invariant (P := fun t => t.Alive ∧ (t.Orderly → s.state.rank ≤ t.state.rank))
    (fun t t' heffect ⟨hlive, hrank⟩ => ⟨hlive.effect heffect, fun h =>
      (hrank (h.of_subset heffect.trace_subset)).trans (rank_effect heffect hlive h)⟩) ⟨halive, fun _ => le_refl _⟩
  exact hinvariant.2 horderly

end Core

lemma Session.run_append {env : Env} (s : Session env) (ops ops' : List (Op env)) :
    s.run (ops ++ ops') = (s.run ops).run ops' := List.foldl_append

section Monotone

variable {env : Env} {c : Conn env}

theorem lifecycle_monotone (h : Begins c) (ops : List (Op env)) (op : Op env)
    (horderly : ∀ note ∈ ((Session.start c).run (ops ++ [op])).conn.trace, note.orderly = true) :
    ((Session.start c).run ops).conn.state.rank ≤ ((Session.start c).run (ops ++ [op])).conn.state.rank := by
  obtain ⟨_, _, _, _, intact, -, -, hpath, -⟩ := Session.reached h ops
  have halive : (((Session.start c).run ops).core intact).Alive :=
    hpath.invariant (fun _ _ heffect hs => hs.effect heffect) fun _ => List.not_mem_nil
  obtain ⟨intact', hstep, -⟩ := ((Session.start c).run ops).step_path intact op
    ((Core.sound_initial _ _ _ _ _).path hpath) ((Core.balanced_initial _ _ _ _ _).path hpath)
  rw [Session.run_append] at horderly ⊢
  exact Core.rank_path hstep halive horderly

theorem lifecycle_monotone_connected_close :
    ((Session.start (plainServer .default)).run [.datagramReceived plainHandshake 0 none 0]).conn.state.rank ≤
      ((Session.start (plainServer .default)).run
        [.datagramReceived plainHandshake 0 none 0, .close 0 "" none]).conn.state.rank :=
  lifecycle_monotone (begins_plainServer .default) [.datagramReceived plainHandshake 0 none 0] (.close 0 "" none)
    (by decide +kernel)

theorem close_after_idle_timeout :
    ((Session.start (plainServer .default)).run [.datagramReceived [] 0 none 0, .handleTimer 1000]).conn.state =
        .terminated ∧
      ((Session.start (plainServer .default)).run
        [.datagramReceived [] 0 none 0, .handleTimer 1000, .close 0 "" none]).conn.state = .closing := by
  decide +kernel

end Monotone

/-! The end of a connection is reported once, and nothing of substance after it. -/

def Event.isTermination : Event → Bool
  | .connectionTerminated _ _ => true
  | _ => false

def Event.isProgress : Event → Bool
  | .streamDataReceived _ | .handshakeCompleted _ | .handshakeConfirmed _ => true
  | _ => false

def Note.timely : Note → Bool
  | .handled state frame => !isLoud frame || state = .handshaking || state = .connected
  | .aborted state | .expired state => state = .handshaking || state = .connected
  | _ => true

namespace Core

variable {s s' : Core}

def IsOpen (s : Core) : Prop := s.state = .handshaking ∨ s.state = .connected

def Timely (s : Core) : Prop := ∀ note ∈ s.trace, note.timely = true

def history (s : Core) : List Event := s.caller.taken ++ s.events

structure Ends (s : Core) : Prop where
  last : s.history.Pairwise fun event later => event.isTermination = true →
    later.isTermination = false ∧ later.isProgress = false
  shut : (∃ event ∈ s.history, event.isTermination = true) → ¬s.IsOpen

lemma Live.isOpen (h : s.Live) (htimely : s.Timely) : s.IsOpen := by
  rcases h with h | ⟨frame, hloud, h⟩
  · exact .inr h
  · simpa [Note.timely, IsOpen, hloud] using htimely _ h

lemma history_report (event : Event) : (s.report event).history = s.history ++ [event] :=
  (List.append_assoc _ _ _).symm

lemma Ends.report (h : s.Ends) {q : ConnectionState} {t : List Note} (hopen : s.IsOpen) (event : Event)
    (hshut : event.isTermination = true → ¬(q = .handshaking ∨ q = .connected)) :
    ({ s with state := q, trace := t }.report event).Ends := by
  have hnone : ∀ e ∈ s.history, e.isTermination = false := by
    intro e he
    by_contra htermination
    exact h.shut ⟨e, he, by simpa using htermination⟩ hopen
  have hhistory : ({ s with state := q, trace := t }.report event).history = s.history ++ [event] :=
    history_report (s := { s with state := q, trace := t }) event
  refine ⟨?_, ?_⟩
  · rw [hhistory]
    refine List.pairwise_append.2 ⟨h.last, List.pairwise_singleton _ _, fun e he later _ htermination => ?_⟩
    rw [hnone e he] at htermination
    cases htermination
  · rintro ⟨e, he, htermination⟩
    rw [hhistory] at he
    rcases List.mem_append.1 he with he | he
    · rw [hnone e he] at htermination
      cases htermination
    · cases List.mem_singleton.1 he
      exact hshut htermination

lemma Ends.of_eq (h : s.Ends) (hhistory : s'.history = s.history) (hopen : s'.IsOpen → s.IsOpen) : s'.Ends :=
  ⟨hhistory ▸ h.last, fun htermination hopen' => h.shut (hhistory ▸ htermination) (hopen hopen')⟩

lemma Ends.negotiate (h : s.Ends) (versions : List ℕ) :
    ({ s with state := .terminated }.report (.versionNegotiationReceived versions)).Ends := by
  have hhistory := history_report (s := { s with state := .terminated }) (.versionNegotiationReceived versions)
  refine ⟨?_, fun _ hopen => ?_⟩
  · rw [hhistory]
    refine List.pairwise_append.2 ⟨h.last, List.pairwise_singleton _ _, fun e _ later hlater _ => ?_⟩
    cases List.mem_singleton.1 hlater
    exact ⟨rfl, rfl⟩
  · rcases hopen with hopen | hopen <;> cases hopen

lemma history_close (frame : ConnectionClose) : (s.close frame).history = s.history := by
  simp only [close]
  split_ifs <;> rfl

lemma isOpen_of_close (frame : ConnectionClose) (h : (s.close frame).IsOpen) : s.IsOpen := by
  simp only [close] at h
  split_ifs at h
  · exact h
  · rcases h with h | h <;> cases h

lemma Ends.abort (h : s.Ends) (hopen : s.IsOpen) (frame : ConnectionClose) (errorCode : ℕ) (reason : String) :
    (((s.note (.aborted s.state)).close frame).report (.connectionTerminated errorCode reason)).Ends := by
  have hclosing : (s.note (.aborted s.state)).close frame = { s with
      trace := .closing s.state :: .aborted s.state :: s.trace
      closeFrame := some frame
      state := .closing } := by
    rcases hopen with hopen | hopen <;> simp [close, note, hopen]
  rw [hclosing]
  exact { h.report (q := .closing) (t := .closing s.state :: .aborted s.state :: s.trace) hopen
    (.connectionTerminated errorCode reason) (by simp) with }

lemma Ends.effect (h : s.Ends) (heffect : Effect s s') (htimely : s'.Timely) : s'.Ends := by
  have hbefore : s.Timely := fun note hnote => htimely note (heffect.trace_subset hnote)
  cases heffect with
  | report event hlive hevent =>
    refine h.report (hlive.isOpen hbefore) event fun htermination => ?_
    cases event with
    | connectionTerminated errorCode reason => exact absurd rfl (hevent errorCode reason)
    | _ => cases htermination
  | extend m m' stream event frames hm hp hhandled hcredits hframes hlive =>
    cases event with
    | none => exact h.of_eq (by simp [history]) id
    | some data =>
      exact { h.report (hlive.isOpen hbefore) (.streamDataReceived data) (by simp [Event.isTermination]) with }
  | complete alpn hlive => exact h.report (hlive.isOpen hbefore) _ (by simp [Event.isTermination])
  | drain errorCode reason hlive =>
    exact h.report (q := .draining) (t := .drained :: s.trace) (hlive.isOpen hbefore) _ (by simp)
  | processClose level packetNumber ecn payload frame reason hnew hcloses hstate =>
    have hhandled :
      ((s.process level packetNumber ecn payload).note (.handled s.state (.connectionClose frame))).Timely :=
      fun note hnote => htimely note (List.mem_cons_of_mem _ hnote)
    have hlive :
      ((s.process level packetNumber ecn payload).note (.handled s.state (.connectionClose frame))).Live :=
      .inr ⟨.connectionClose frame, rfl, List.mem_cons_self⟩
    have hopen : s.IsOpen := hlive.isOpen hhandled
    have hends := h.report (q := .draining) (t := .drained :: .handled s.state (.connectionClose frame) ::
      .processed level packetNumber ecn payload :: s.trace) hopen
        (.connectionTerminated frame.errorCode reason) (by simp)
    exact ⟨hends.last, hends.shut⟩
  | negotiate versions => exact h.negotiate versions
  | abort frame errorCode reason =>
    have hsub := ((s.note (.aborted s.state)).trace_close frame).subset
    have hopen : s.IsOpen := by
      simpa [Note.timely, IsOpen] using htimely (.aborted s.state) (hsub List.mem_cons_self)
    exact h.abort hopen frame errorCode reason
  | close frame => exact h.of_eq (history_close frame) (isOpen_of_close frame)
  | expire reason =>
    have hopen : s.IsOpen := by
      simpa [Note.timely, IsOpen] using htimely (.expired s.state) List.mem_cons_self
    exact h.report hopen _ (by simp)
  | terminate => exact h.of_eq rfl (by simp [IsOpen])
  | takeEvents => exact h.of_eq (by simp [history]) id
  | _ => exact h.of_eq rfl id

end Core

section Termination

variable {env : Env} {c : Conn env}

/-- In a run that is timely throughout, at most one end is reported, and no progress after it. -/
theorem termination_reported_once (h : Begins c) (ops : List (Op env))
    (htimely : ∀ note ∈ ((Session.start c).run ops).conn.trace, note.timely = true) :
    (((Session.start c).run ops).taken.filter Event.isTermination).length ≤ 1 ∧
      ((Session.start c).run ops).taken.Pairwise fun event later => event.isTermination = true →
        later.isProgress = false := by
  obtain ⟨_, _, _, _, intact, -, -, hpath, -⟩ := Session.reached h ops
  have hends := hpath.invariant (P := fun s => s.Timely → s.Ends)
    (fun s s' heffect hs htimely => (hs fun note hnote => htimely note (heffect.trace_subset hnote)).effect
      heffect htimely)
    (fun _ => ⟨List.Pairwise.nil, by simp [Core.history, Core.initial, Caller.new]⟩) htimely
  have htaken : ((Session.start c).run ops).taken.Pairwise fun event later => event.isTermination = true →
      later.isTermination = false ∧ later.isProgress = false := (List.pairwise_append.1 hends.last).1
  refine ⟨?_, htaken.imp fun hlater htermination => (hlater htermination).2⟩
  have hfiltered : (((Session.start c).run ops).taken.filter Event.isTermination).Pairwise fun _ _ => False := by
    apply (htaken.filter Event.isTermination).imp_of_mem
    intro event later hevent hlater hpair
    have hnot := (hpair (List.mem_filter.1 hevent).2).1
    rw [(List.mem_filter.1 hlater).2] at hnot
    cases hnot
  rcases hlist : ((Session.start c).run ops).taken.filter Event.isTermination with _ | ⟨event, _ | ⟨later, rest⟩⟩
  · exact Nat.zero_le 1
  · exact le_refl 1
  · rw [hlist] at hfiltered
    exact ((List.pairwise_cons.1 hfiltered).1 later List.mem_cons_self).elim

theorem termination_reported_once_idle :
    (((Session.start (plainServer .default)).run
      [.datagramReceived plainHandshake 0 none 0, .handleTimer 1000, .takeEvents]).taken.filter
        Event.isTermination).length ≤ 1 :=
  (termination_reported_once (begins_plainServer .default)
    [.datagramReceived plainHandshake 0 none 0, .handleTimer 1000, .takeEvents] (by decide +kernel)).1

theorem termination_reported_twice :
    (((Session.start (plainServer .default)).run
      [.datagramReceived [] 0 none 0, .handleTimer 1000, .handleTimer 1000, .takeEvents]).taken.filter
        Event.isTermination).length = 2 := by
  decide +kernel

end Termination

end Dsquic.Connection
