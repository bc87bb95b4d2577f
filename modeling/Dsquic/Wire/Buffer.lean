import Dsquic.Lib.Effect
import Mathlib.Algebra.Group.Nat.Defs
import Mathlib.Data.Nat.Basic
import Mathlib.Data.List.Basic

/-!
Variable-length integers and the sequential byte reader, with the exceptions every layer above raises.
-/

namespace Dsquic.Wire

open Lib

abbrev Bytes := List UInt8

/-- The exceptions of the program. `connection` is `ConnectionError_`, the only one that
`datagram_received` turns into a CONNECTION_CLOSE. -/
inductive Raised
  | connection (errorCode : ℕ) (reason : String) (frameType : Option ℕ)
  | stream (errorCode : ℕ) (reason : String)
  | streamLimit (reason : String)
  | frameParse (reason : String)
  | headerParse (reason : String)
  | unsupportedVersion (version : ℕ)
  | bufferRead (reason : String)
  | ackOfUnsent (reason : String)
  | handshakeParse (reason : String)
  | tlsAlert (alert : ℕ) (reason : String)
  | token (reason : String)
  | hq (reason : String)
  | invalidTag
  | key (key : ℕ)
  | value (reason : String)
  | overflow (reason : String)
  | assertion
  | runtime (reason : String)
  | zeroDivision
  | memory
  | index (reason : String)
  | diverges
  deriving DecidableEq

def hex (n : ℕ) : String := "0x" ++ String.ofList (Nat.toDigits 16 n)

def toBytes : ℕ → ℕ → Bytes
  | 0, _ => []
  | length + 1, value => toBytes length (value / 256) ++ [UInt8.ofNat value]

def fromBytes (data : Bytes) : ℕ :=
  data.foldl (fun value byte => value * 256 + byte.toNat) 0

@[simp] lemma length_toBytes (length value : ℕ) : (toBytes length value).length = length := by
  induction length generalizing value with
  | zero => rfl
  | succ length ih => simp [toBytes, ih]

lemma fromBytes_append_singleton (data : Bytes) (byte : UInt8) :
    fromBytes (data ++ [byte]) = fromBytes data * 256 + byte.toNat := by
  simp [fromBytes]

lemma fromBytes_toBytes (length value : ℕ) :
    fromBytes (toBytes length value) = value % 256 ^ length := by
  induction length generalizing value with
  | zero => simp [toBytes, fromBytes, Nat.mod_one]
  | succ length ih =>
    have hbyte : (UInt8.ofNat value).toNat = value % 256 := by simp
    rw [toBytes, fromBytes_append_singleton, ih, hbyte, Nat.pow_succ', Nat.mod_mul]
    omega

def varintMax : ℕ := 2 ^ 62 - 1

def encodeVarint (value : ℕ) : Except Raised Bytes :=
  if value ≤ 0x3F then .ok (toBytes 1 value)
  else if value ≤ 0x3FFF then .ok (toBytes 2 (value ||| 0x4000))
  else if value ≤ 0x3FFFFFFF then .ok (toBytes 4 (value ||| 0x80000000))
  else if value ≤ varintMax then .ok (toBytes 8 (value ||| 0xC000000000000000))
  else .error (.value s!"varint out of range: {value}")

def encodeVarintSub (value minus : ℕ) : Except Raised Bytes :=
  if value < minus then .error (.value s!"varint out of range: -{minus - value}")
  else encodeVarint (value - minus)

def varintLength (value : ℕ) : ℕ :=
  if value ≤ 0x3F then 1 else if value ≤ 0x3FFF then 2 else if value ≤ 0x3FFFFFFF then 4 else 8

lemma length_encodeVarint {value : ℕ} {data : Bytes} (h : encodeVarint value = .ok data) :
    data.length = varintLength value := by
  unfold encodeVarint at h
  unfold varintLength
  split_ifs at h ⊢ <;> cases h <;> simp

lemma encodeVarint_isOk {value : ℕ} (h : value ≤ varintMax) :
    ∃ data, encodeVarint value = .ok data := by
  unfold encodeVarint
  split_ifs <;> exact ⟨_, rfl⟩

lemma varintLength_le (value : ℕ) : varintLength value ≤ 8 := by
  unfold varintLength
  split_ifs <;> decide

lemma varintLength_pos (value : ℕ) : 0 < varintLength value := by
  unfold varintLength
  split_ifs <;> decide

lemma varintLength_mono {a b : ℕ} (h : a ≤ b) : varintLength a ≤ varintLength b := by
  unfold varintLength
  split_ifs <;> omega

/-- `rest` is what lies beyond `position`. -/
structure Buffer where
  rest : Bytes
  position : ℕ
  deriving DecidableEq

abbrev Parser := EStateM Raised Buffer

def Parser.run {α : Type} (p : Parser α) (data : Bytes) : Except Raised α :=
  match p ⟨data, 0⟩ with
  | .ok a _ => .ok a
  | .error e _ => .error e

lemma Parser.of_run_eq_ok {α : Type} {p : Parser α} {data : Bytes} {a : α} {Q : α → Prop}
    (hp : Ensures p ⟨data, 0⟩ (fun a _ => Q a)) (h : p.run data = .ok a) : Q a := by
  simp only [Parser.run] at h
  cases hrun : p ⟨data, 0⟩ with
  | ok b s =>
    simp only [hrun, Except.ok.injEq] at h
    exact h ▸ hp.of_ok hrun
  | error e s => simp [hrun] at h

def Parser.Raises {α : Type} (E : Raised → Prop) (p : Parser α) : Prop :=
  ∀ b, Ensures p b (fun _ _ => True) fun e _ => E e

namespace Parser.Raises

variable {α β : Type} {E : Raised → Prop} {p : Parser α} {f : α → Parser β} {e : Raised}

lemma bind (h : Raises E p) (hf : ∀ a, Raises E (f a)) : Raises E (p >>= f) := by
  intro b
  rw [ensures_bind]
  exact (h b).mono (fun a b' _ => hf a b') fun _ _ he => he

lemma pure (a : α) : Raises E (Pure.pure a : Parser α) := fun _ => trivial

lemma get : Raises E (MonadStateOf.get : Parser Buffer) := fun _ => trivial

lemma raiseIf_bind {condition : Prop} [Decidable condition] {f : PUnit → Parser β} (h : E e)
    (hf : Raises E (f ⟨⟩)) : Raises E (raiseIf condition e >>= f) := by
  intro b
  rw [ensures_bind, ensures_raiseIf]
  exact ⟨fun _ => h, fun _ => hf b⟩

lemma lift_bind {x : Except Raised α} (h : ∀ e, x = .error e → E e) (hf : ∀ a, Raises E (f a)) :
    Raises E (lift x >>= f) := by
  intro b
  rw [ensures_bind, ensures_lift]
  exact ⟨fun a _ => hf a b, h⟩

lemma of_run_eq_error {data : Bytes} (hp : Raises E p) (h : p.run data = .error e) : E e := by
  simp only [Parser.run] at h
  cases hrun : p ⟨data, 0⟩ with
  | ok b s => simp [hrun] at h
  | error e' s =>
    simp only [hrun, Except.error.injEq] at h
    exact h ▸ (hp _).of_error hrun

end Parser.Raises

namespace Buffer

def remaining (b : Buffer) : ℕ := b.rest.length

def isEmpty (b : Buffer) : Bool := b.rest.isEmpty

def pullBytes (length : ℕ) : Parser Bytes := do
  let b ← get
  raiseIf (length > b.remaining)
    (.bufferRead s!"cannot pull {length} bytes, {b.remaining} remaining")
  set (Buffer.mk (b.rest.drop length) (b.position + length))
  return b.rest.take length

def pullUint8 : Parser UInt8 := do
  let data ← pullBytes 1
  return data.headD 0

def pullUint (width : ℕ) : Parser ℕ := do
  let data ← pullBytes width
  return fromBytes data

def pullUint16 : Parser ℕ := pullUint 2

def pullUint32 : Parser ℕ := do
  let data ← pullBytes 4
  return fromBytes data

def pullVarint : Parser ℕ := do
  let first ← pullUint8
  let length := 1 <<< (first.toNat >>> 6)
  let data ← pullBytes (length - 1)
  return data.foldl (fun value byte => value * 256 + byte.toNat) (first.toNat &&& 0x3F)

section Raises

variable {E : Raised → Prop} (hread : ∀ reason, E (.bufferRead reason))

include hread

lemma raises_pullBytes (length : ℕ) : Parser.Raises E (pullBytes length) := by
  intro b
  simp only [pullBytes, ensures_flow]
  exact ⟨fun _ => hread _, fun _ => trivial⟩

lemma raises_pullUint8 : Parser.Raises E pullUint8 := (raises_pullBytes hread 1).bind fun _ => .pure _

lemma raises_pullUint32 : Parser.Raises E pullUint32 := (raises_pullBytes hread 4).bind fun _ => .pure _

lemma raises_pullVarint : Parser.Raises E pullVarint :=
  (raises_pullUint8 hread).bind fun _ => (raises_pullBytes hread _).bind fun _ => .pure _

end Raises

end Buffer

end Dsquic.Wire
