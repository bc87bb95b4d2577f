import Dsquic.Connection.Plain
import Dsquic.Connection.Run

/-!
How much a server sends to a client whose address it has not validated.
-/

namespace Dsquic.Connection

open Lib Wire Streams Recovery

def Note.affordable (config : Config) : Note → Bool
  | .built unvalidated allowance => !unvalidated || (config.maxDatagramSize + config.token.length : ℤ) ≤ allowance
  | .closed unvalidated allowance reasonLength _ =>
    !unvalidated || (96 + config.token.length + reasonLength : ℤ) ≤ allowance
  | _ => true

namespace Core

variable {s s' : Core}

structure Meters (config : Config) (s : Core) : Prop where
  role : s.isClient = false
  config_eq : s.config = config
  noRetry : s.retryToken = []
  host : s.hostCid.length = 8
  peer : s.peerCid.length ≤ maxCidLength
  open_closed : s.closeSent = false → closedSize s.trace = 0
  sent_close : s.closeSent = true → s.closeFrame ≠ none
  bounded : s.addressValidated = false → (∀ note ∈ s.trace, note.affordable config = true) →
    s.spent ≤ 3 * s.bytesReceived

variable {config : Config}

lemma Meters.token (h : s.Meters config) : s.token = config.token := by
  simp [Core.token, h.noRetry, h.config_eq]

lemma Meters.unvalidated (h : s.Meters config) (haddress : s.addressValidated = false) : s.unvalidated = true := by
  simp [Core.unvalidated, h.role, haddress]

lemma Meters.of_eq (h : s.Meters config) (hrole : s'.isClient = s.isClient) (hconfig : s'.config = s.config)
    (hretry : s'.retryToken = s.retryToken) (hhost : s'.hostCid = s.hostCid)
    (hpeer : s'.peerCid.length ≤ maxCidLength) (hsent : s'.closeSent = s.closeSent)
    (hframe : s.closeFrame ≠ none → s'.closeFrame ≠ none) (hclosed : closedSize s'.trace = closedSize s.trace)
    (hbytes : s'.bytesSent = s.bytesSent) (hreceived : s.bytesReceived ≤ s'.bytesReceived)
    (haddress : s'.addressValidated = false → s.addressValidated = false) (htrace : s.trace ⊆ s'.trace) :
    s'.Meters config where
  role := hrole.trans h.role
  config_eq := hconfig.trans h.config_eq
  noRetry := hretry.trans h.noRetry
  host := hhost ▸ h.host
  peer := hpeer
  open_closed hopen := hclosed.trans (h.open_closed (hsent ▸ hopen))
  sent_close hclose := hframe (h.sent_close (hsent ▸ hclose))
  bounded hvalidated haffordable := by
    have hbefore := h.bounded (haddress hvalidated) fun note hnote => haffordable note (htrace hnote)
    simp only [spent, hclosed, hbytes] at hbefore ⊢
    omega

lemma closedSize_cons_of_eq {note : Note} {trace : List Note} (h : note.closedSize = 0) :
    closedSize (note :: trace) = closedSize trace := by
  rw [closedSize, List.map_cons, List.sum_cons, h, Nat.zero_add, closedSize]

lemma Meters.note (h : s.Meters config) (note : Note) (hnote : note.closedSize = 0) :
    (s.note note).Meters config :=
  h.of_eq rfl rfl rfl rfl h.peer rfl id (closedSize_cons_of_eq hnote) rfl (le_refl _) id
    (List.subset_cons_self _ _)

lemma Meters.close (h : s.Meters config) (frame : ConnectionClose) : (s.close frame).Meters config := by
  simp only [Core.close]
  split_ifs
  · exact h
  · have hnote := h.note (.closing s.state) rfl
    exact hnote.of_eq rfl rfl rfl rfl h.peer rfl (fun _ => Option.some_ne_none frame) rfl rfl (le_refl _) id
      (List.Subset.refl _)

lemma Meters.count (h : s.Meters config) {length : ℕ} (hopen : s.closeFrame = none)
    (hlength : s.unvalidated = true → s.peerCid.length ≤ maxCidLength → s.hostCid.length = 8 →
      (length : ℤ) ≤ s.sizeBound) :
    { s.note (.built s.unvalidated s.allowance) with bytesSent := s.bytesSent + length }.Meters config := by
  have hclosed : closedSize s.trace = 0 := by
    apply h.open_closed
    by_contra hsent
    exact h.sent_close (by simpa using hsent) hopen
  have hbuilt : closedSize (.built s.unvalidated s.allowance :: s.trace) = 0 :=
    (closedSize_cons_of_eq rfl).trans hclosed
  refine { h with open_closed := fun _ => hbuilt, bounded := fun hvalidated haffordable => ?_ }
  have hunvalidated := h.unvalidated hvalidated
  have hlength := hlength hunvalidated h.peer h.host
  have hpaid := haffordable _ List.mem_cons_self
  have hbefore := h.bounded hvalidated fun note hnote => haffordable note (List.mem_cons_of_mem _ hnote)
  simp only [Note.affordable, hunvalidated, Bool.not_true, Bool.false_or, decide_eq_true_eq] at hpaid
  have hspent : s.bytesSent ≤ 3 * s.bytesReceived := by simpa [spent, hclosed] using hbefore
  simp only [sizeBound, h.token, h.config_eq, allowance] at hlength hpaid
  simp only [Core.note, spent, hbuilt]
  omega

lemma Meters.conclude (h : s.Meters config) {frame : ConnectionClose} {size : ℕ}
    (hframe : s.closeFrame = some frame)
    (hsent : s.closeSent = false)
    (hsize : s.peerCid.length ≤ maxCidLength → s.hostCid.length = 8 → size ≤ s.closeBound frame.reason.length) :
    { s.note (.closed s.unvalidated s.allowance frame.reason.length size) with closeSent := true }.Meters
      config := by
  have hclosed := h.open_closed hsent
  refine { h with
    open_closed := fun hopen => by cases hopen
    sent_close := fun _ hnone => by simp [Core.note, hframe] at hnone
    bounded := fun hvalidated haffordable => ?_ }
  have hunvalidated := h.unvalidated hvalidated
  have hsize := hsize h.peer h.host
  have hpaid := haffordable _ List.mem_cons_self
  have hbefore := h.bounded hvalidated fun note hnote => haffordable note (List.mem_cons_of_mem _ hnote)
  simp only [Note.affordable, hunvalidated, Bool.not_true, Bool.false_or, decide_eq_true_eq] at hpaid
  simp only [closedSize] at hclosed
  simp only [Core.note, spent, closedSize, List.map_cons, List.sum_cons, Note.closedSize, closeBound, h.token,
    allowance, hclosed] at *
  omega

lemma Meters.effect (h : s.Meters config) (heffect : Effect s s') : s'.Meters config := by
  cases heffect with
  | receive length hpaid =>
    exact h.of_eq rfl rfl rfl rfl h.peer rfl id rfl rfl (Nat.le_add_right _ _) id (List.Subset.refl _)
  | address cid hcid | learn cid hcid =>
    exact h.of_eq rfl rfl rfl rfl hcid rfl id rfl rfl (le_refl _) id (List.Subset.refl _)
  | adopt dcid scid hscid =>
    have hnote := h.note (.adopted dcid scid) rfl
    refine hnote.of_eq rfl rfl rfl rfl ?_ rfl id rfl rfl (le_refl _) id (List.Subset.refl _)
    simp only [install, onQueue, onInbox]
    split_ifs
    · exact hscid
    · exact h.peer
  | retry packet hcid hclient =>
    rw [h.role] at hclient
    cases hclient
  | validate =>
    exact h.of_eq rfl rfl rfl rfl h.peer rfl id rfl rfl (le_refl _) (fun hfalse => by cases hfalse)
      (List.Subset.refl _)
  | close frame => exact h.close frame
  | abort frame errorCode reason => exact { (h.note (.aborted s.state) rfl).close frame with }
  | count length hopen hlength => exact h.count hopen hlength
  | conclude frame size hframe hsent hsize => exact h.conclude hframe hsent hsize
  | processClose level packetNumber ecn payload frame reason hnew hcloses hstate =>
    have hprocessed := h.note (.processed level packetNumber ecn payload) rfl
    have hhandled := hprocessed.note (.handled s.state (.connectionClose frame)) rfl
    exact { hhandled.note .drained rfl with }
  | secret keys next htls =>
    have hkeyed := h.note (.keyed (some keys)) rfl
    exact { hkeyed.note (.keyed (some next)) rfl with }
  | opened | unveil | process | reassemble | rotate | handle | discard | confirm | complete | drain | expire | emit
  | oweProbes | protect | send | acknowledge | sync | retried | agree => exact { h.note _ rfl with }
  | _ => exact { h with }

end Core

section Amplification

variable {env : Env}

theorem amplification_bounded (config : Config) (hostCid : Conn.Cid) (destination : Option env.Destination)
    (ops : List (Op env))
    (haffordable : ∀ note ∈ ((Session.start (Conn.newServer env config hostCid destination)).run ops).conn.trace,
      note.affordable config = true)
    (hvalidated : ((Session.start (Conn.newServer env config hostCid destination)).run ops).conn.addressValidated =
      false) :
    ((Session.start (Conn.newServer env config hostCid destination)).run ops).returned ≤
      3 * ((Session.start (Conn.newServer env config hostCid destination)).run ops).passed := by
  have hs := Core.sound_initial env.toPrimitives false config hostCid.1 []
  have hb := Core.balanced_initial env.toPrimitives false config hostCid.1 []
  obtain ⟨intact, hpath, -⟩ :=
    (Session.start (Conn.newServer env config hostCid destination)).run_path true ops hs hb
  have hmeters := hpath.invariant (P := Core.Meters config) (fun _ _ heffect h => h.effect heffect)
    ⟨rfl, rfl, rfl, hostCid.2, Nat.zero_le _, fun _ => rfl, Bool.noConfusion, fun _ _ => le_refl 0⟩
  have hbalanced := hb.path hpath
  calc ((Session.start (Conn.newServer env config hostCid destination)).run ops).returned
    _ ≤ (((Session.start (Conn.newServer env config hostCid destination)).run ops).core intact).spent :=
      hbalanced.handed
    _ ≤ 3 * ((Session.start (Conn.newServer env config hostCid destination)).run ops).conn.bytesReceived :=
      hmeters.bounded hvalidated haffordable
    _ ≤ 3 * ((Session.start (Conn.newServer env config hostCid destination)).run ops).passed :=
      Nat.mul_le_mul_left 3 hbalanced.paid

theorem amplification_bounded_first_flight :
    ((Session.start (Conn.newServer .plain .default ⟨List.replicate 8 1, rfl⟩ none)).run
        [.datagramReceived (plainFullInitial [3, 5, 4]) 0 none 0, .datagramsToSend 0 9]).returned ≤
      3 * ((Session.start (Conn.newServer .plain .default ⟨List.replicate 8 1, rfl⟩ none)).run
        [.datagramReceived (plainFullInitial [3, 5, 4]) 0 none 0, .datagramsToSend 0 9]).passed :=
  amplification_bounded .default ⟨List.replicate 8 1, rfl⟩ none
    [.datagramReceived (plainFullInitial [3, 5, 4]) 0 none 0, .datagramsToSend 0 9] (by decide +kernel)
      (by decide +kernel)

theorem close_amplifies :
    ((Session.start (plainServer .default)).run
        [.datagramReceived [0xC0, 0, 0, 0, 1, 0, 0, 0, 0] 0 none 0, .close 0 "" none,
          .datagramsToSend 0 1]).conn.addressValidated = false ∧
      3 * ((Session.start (plainServer .default)).run
        [.datagramReceived [0xC0, 0, 0, 0, 1, 0, 0, 0, 0] 0 none 0, .close 0 "" none,
          .datagramsToSend 0 1]).passed <
      ((Session.start (plainServer .default)).run
        [.datagramReceived [0xC0, 0, 0, 0, 1, 0, 0, 0, 0] 0 none 0, .close 0 "" none,
          .datagramsToSend 0 1]).returned := by
  decide +kernel

end Amplification

end Dsquic.Connection
