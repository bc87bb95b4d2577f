import Dsquic.Tls.KeyExchange
import Dsquic.Tls.TicketAge
import Mathlib.Algebra.Order.BigOperators.Group.List

/-!
Computations that raise nothing but alerts, encodings that do not fail among them.
-/

namespace Dsquic.Tls

open Lib Wire Buffer Recovery

def IsAlert (e : Raised) : Prop := ∃ alert reason, e = .tlsAlert alert reason

def Alerts {α : Type} (x : Except Raised α) : Prop := ∀ e, x = .error e → IsAlert e

abbrev Upholds {α σ : Type} (I : σ → Prop) (m : EStateM Raised σ α) (s : σ) : Prop :=
  Ensures m s (fun _ => I) fun e s' => IsAlert e ∧ I s'

section Alerts

variable {α β σ : Type} {x : Except Raised α} {f : α → Except Raised β}

lemma isAlert_tlsAlert (alert : ℕ) (reason : String) : IsAlert (.tlsAlert alert reason) := ⟨alert, reason, rfl⟩

lemma alerts_of_ok {a : α} (h : x = .ok a) : Alerts x := by
  rintro e he
  cases h.symm.trans he

lemma alerts_alert (alert : ℕ) (reason : String) : Alerts (.error (.tlsAlert alert reason) : Except Raised α) := by
  rintro _ ⟨⟩
  exact isAlert_tlsAlert alert reason

lemma Alerts.bind (hx : Alerts x) (hf : ∀ a, x = .ok a → Alerts (f a)) : Alerts (x >>= f) := by
  intro e he
  rcases bind_eq_error.1 he with hx' | ⟨a, ha, hfa⟩
  · exact hx e hx'
  · exact hf a ha e hfa

lemma ensures_lift_alerts {s : σ} {Q : α → σ → Prop} {I : σ → Prop} (hx : Alerts x) (hs : I s)
    (hQ : ∀ a, x = .ok a → Q a s) : Ensures (lift x) s Q fun e s' => IsAlert e ∧ I s' :=
  ensures_lift.2 ⟨hQ, fun e he => ⟨hx e he, hs⟩⟩

end Alerts

section Sizes

def Sized (x : Except Raised Bytes) (n : ℕ) : Prop := ∃ data, x = .ok data ∧ data.length = n

variable {x : Except Raised Bytes} {xs : List (Except Raised Bytes)} {n m width : ℕ}
  {α : Type} {encode : α → Except Raised Bytes} {items : List α} {data : Bytes} {size : α → ℕ}

lemma Sized.alerts (h : Sized x n) : Alerts x := by
  obtain ⟨data, hdata, -⟩ := h
  exact alerts_of_ok hdata

lemma Sized.length (h : Sized x n) (hdata : x = .ok data) : data.length = n := by
  obtain ⟨data', hdata', hn⟩ := h
  cases hdata.symm.trans hdata'
  exact hn

lemma Sized.of_eq (h : Sized x n) (hn : n = m) : Sized x m := hn ▸ h

lemma sized_ok (data : Bytes) : Sized (.ok data) data.length := ⟨data, rfl, rfl⟩

lemma sized_nil : Sized (concatEncoded []) 0 := sized_ok []

lemma Sized.cons (hx : Sized x n) (hxs : Sized (concatEncoded xs) m) :
    Sized (concatEncoded (x :: xs)) (n + m) := by
  obtain ⟨first, hfirst, rfl⟩ := hx
  obtain ⟨others, hothers, rfl⟩ := hxs
  exact ⟨first ++ others, concatEncoded_step hfirst hothers, List.length_append⟩

lemma sized_intToBytes {value : ℕ} (h : value < 256 ^ width) : Sized (intToBytes value width) width :=
  ⟨toBytes width value, if_pos h, length_toBytes width value⟩

lemma sized_vec (width : ℕ) (h : data.length < 256 ^ width) : Sized (vec width data) (width + data.length) :=
  (sized_intToBytes h).cons ((sized_ok data).cons sized_nil)

lemma sized_concat (h : ∀ item ∈ items, Sized (encode item) (size item)) :
    Sized (concatEncoded (items.map encode)) (items.map size).sum := by
  induction items with
  | nil => exact sized_nil
  | cons item items ih =>
    rw [List.forall_mem_cons] at h
    exact h.1.cons (ih h.2)

lemma Sized.bind {f : Bytes → Except Raised Bytes} (hx : Sized x n)
    (hf : ∀ data, data.length = n → Sized (f data) m) :
    Sized (x >>= f) m := by
  obtain ⟨data, rfl, hdata⟩ := hx
  exact hf data hdata

lemma sized_vecOf (width : ℕ)
    (h : ∀ item ∈ items, Sized (encode item) (size item)) (hsum : (items.map size).sum < 256 ^ width) :
    Sized (vecOf width encode items) (width + (items.map size).sum) := by
  refine (sized_concat h).bind fun data hdata => ?_
  rw [← hdata] at hsum ⊢
  exact sized_vec width hsum

lemma sized_handshakeMessage {messageType : HandshakeType} (hx : Sized x n) (hn : n < 256 ^ 3) :
    Sized (handshakeMessage messageType x) (4 + n) := by
  refine hx.bind fun data hdata => ?_
  rw [← hdata] at hn ⊢
  refine ((sized_ok [messageType.value]).cons ((sized_vec 3 hn).cons sized_nil)).of_eq ?_
  simp only [List.length_singleton]
  omega

lemma sized_extension {ext : Extension} (htype : ext.type < 256 ^ 2) (hdata : ext.data.length < 256 ^ 2) :
    Sized (encodeExtension ext) (4 + ext.data.length) :=
  ((sized_intToBytes htype).cons ((sized_vec 2 hdata).cons sized_nil)).of_eq (by omega)

def Extension.total (extensions : List Extension) : ℕ := (extensions.map fun ext => 4 + ext.data.length).sum

lemma sized_extensions (extensions : List Extension) (htype : ∀ ext ∈ extensions, ext.type < 256 ^ 2)
    (hsum : Extension.total extensions < 256 ^ 2) :
    Sized (encodeExtensions extensions) (2 + Extension.total extensions) := by
  refine sized_vecOf 2 (fun ext hext => sized_extension (htype ext hext) ?_) hsum
  have hle : 4 + ext.data.length ≤ Extension.total extensions :=
    List.single_le_sum (fun _ _ => Nat.zero_le _) _ (List.mem_map_of_mem hext)
  omega

end Sizes

section Parts

lemma alerts_exchange {prims : Asymmetric} {key peerPublic : Bytes} (hlength : peerPublic.length = 32)
    (hshared : (prims.sharedSecret key peerPublic).isSome = true) : Alerts (prims.exchange key peerPublic) := by
  obtain ⟨shared, hsome⟩ := Option.isSome_iff_exists.1 hshared
  apply alerts_of_ok
  rw [Asymmetric.exchange, if_neg (not_not.2 hlength), hsome]

lemma alerts_binderTranscript (clientHello : Bytes) (binderCount : ℕ) :
    Alerts (binderTranscript clientHello binderCount) := by
  rw [binderTranscript]
  split_ifs
  · exact alerts_alert _ _
  · exact alerts_of_ok rfl

lemma alerts_encodeFinished (hashing : Hashing) (secret transcriptHash : Bytes) :
    Alerts (encodeFinished ⟨finishedVerifyData hashing secret transcriptHash⟩) := by
  refine (sized_handshakeMessage (sized_ok _) ?_).alerts
  rw [show (finishedVerifyData hashing secret transcriptHash).length =
    sha256Length from hashing.length_hmacSha256 _ _]
  decide

lemma alerts_requireMessage (expects : HandshakeType × Level) (level : Level) (message : HandshakeMessage) :
    Alerts (requireMessage expects level message) := by
  rw [requireMessage]
  split_ifs
  · exact alerts_alert _ _
  · exact alerts_alert _ _
  · exact alerts_of_ok rfl

end Parts

end Dsquic.Tls
