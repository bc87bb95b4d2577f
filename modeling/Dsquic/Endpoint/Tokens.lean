import Dsquic.Connection.State
import Dsquic.Wire.PacketCodec
import Mathlib.Data.Rat.Floor

/-!
Retry packets and the tokens that validate an address.
-/

namespace Dsquic.Endpoint

open Lib Wire Buffer Connection

def nonceLength : ℕ := 12

def retryToken : Bytes := [1]

def newToken : Bytes := [2]

/-- `int(now)` -/
def wholeSeconds (now : ℚ) : ℤ := if 0 ≤ now then ⌊now⌋ else ⌈now⌉

def timestamp (now : ℚ) : Except Raised Bytes :=
  if wholeSeconds now < 0 then .error (.overflow "can't convert negative int to unsigned")
  else intToBytes (wholeSeconds now).toNat 8

def aesGcmDecrypt (prims : Primitives) (key nonce data aad : Bytes) : Except Raised Bytes :=
  if nonce.length < 8 ∨ 128 < nonce.length then .error (.value "Nonce must be between 8 and 128 bytes")
  else
    match prims.aeadDecrypt .aesGcm key nonce data aad with
    | some payload => .ok payload
    | none => .error .invalidTag

def retryHeader (destinationCid sourceCid token : Bytes) : Except Raised Bytes :=
  concatEncoded [.ok [UInt8.ofNat (0x80 ||| 0x40 ||| PacketType.retry.value <<< 4)], intToBytes quicV1 4,
    singleByte destinationCid.length, .ok destinationCid, singleByte sourceCid.length, .ok sourceCid, .ok token]

def buildRetry (prims : Primitives) (destinationCid sourceCid token originalDestinationCid : Bytes) :
    Except Raised Bytes := do
  let header ← retryHeader destinationCid sourceCid token
  let tag ← prims.retryIntegrityTag originalDestinationCid header
  return header ++ tag

def tokenPayload (originalDestinationCid clientAddress : Bytes) (now : ℚ) : Except Raised Bytes :=
  concatEncoded [encodeVarint originalDestinationCid.length, .ok originalDestinationCid,
    encodeVarint clientAddress.length, .ok clientAddress, timestamp now]

def mintToken (prims : Primitives) (key nonce originalDestinationCid clientAddress : Bytes) (now : ℚ) :
    Except Raised Bytes := do
  let payload ← tokenPayload originalDestinationCid clientAddress now
  return retryToken ++ nonce ++ prims.aeadEncrypt .aesGcm key nonce payload retryToken

def newTokenPayload (clientAddress : Bytes) (now : ℚ) : Except Raised Bytes :=
  concatEncoded [encodeVarint clientAddress.length, .ok clientAddress, timestamp now]

def mintNewToken (prims : Primitives) (key nonce clientAddress : Bytes) (now : ℚ) : Except Raised Bytes := do
  let payload ← newTokenPayload clientAddress now
  return newToken ++ nonce ++ prims.aeadEncrypt .aesGcm key nonce payload newToken

def openToken (prims : Primitives) (key kind token : Bytes) : Except Raised Bytes :=
  let nonce := (token.drop kind.length).take nonceLength
  let data := token.drop (kind.length + nonceLength)
  (aesGcmDecrypt prims key nonce data kind).mapError fun
    | .invalidTag => .token "token does not authenticate"
    | e => e

def pullIssued : Parser (Bytes × ℕ) := do
  let address ← pullLengthPrefixed
  let issued ← pullBytes 8
  return (address, fromBytes issued)

def checkIssued (issued : Bytes × ℕ) (clientAddress : Bytes) (now lifetime : ℚ) : Except Raised PUnit :=
  if issued.1 ≠ clientAddress then .error (.token "token was issued to another address")
  else if now - issued.2 > lifetime then .error (.token "token has expired")
  else .ok ⟨⟩

def validateToken (prims : Primitives) (key token clientAddress : Bytes) (now lifetime : ℚ) :
    Except Raised Bytes :=
  if ¬retryToken <+: token then .error (.token "not a Retry token")
  else do
    let payload ← openToken prims key retryToken token
    let (originalDestinationCid, issued) ← Parser.run (do
      let originalDestinationCid ← pullLengthPrefixed
      let issued ← pullIssued
      return (originalDestinationCid, issued)) payload
    checkIssued issued clientAddress now lifetime
    return originalDestinationCid

def validateNewToken (prims : Primitives) (key token clientAddress : Bytes) (now lifetime : ℚ) :
    Except Raised PUnit :=
  if ¬newToken <+: token then .error (.token "not a NEW_TOKEN token")
  else do
    let payload ← openToken prims key newToken token
    let issued ← pullIssued.run payload
    checkIssued issued clientAddress now lifetime

end Dsquic.Endpoint
