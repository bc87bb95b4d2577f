import Dsquic.Wire.Frames
import Dsquic.Wire.Packet

/-!
The handshake messages of TLS, their encoders and their parser.
-/

namespace Dsquic.Tls

open Lib Wire Buffer

inductive HandshakeType
  | clientHello
  | serverHello
  | newSessionTicket
  | encryptedExtensions
  | certificate
  | certificateVerify
  | finished
  deriving DecidableEq

namespace HandshakeType

def value : HandshakeType → UInt8
  | clientHello => 1
  | serverHello => 2
  | newSessionTicket => 4
  | encryptedExtensions => 8
  | certificate => 11
  | certificateVerify => 15
  | finished => 20

def name : HandshakeType → String
  | clientHello => "CLIENT_HELLO"
  | serverHello => "SERVER_HELLO"
  | newSessionTicket => "NEW_SESSION_TICKET"
  | encryptedExtensions => "ENCRYPTED_EXTENSIONS"
  | certificate => "CERTIFICATE"
  | certificateVerify => "CERTIFICATE_VERIFY"
  | finished => "FINISHED"

def all : List HandshakeType :=
  [clientHello, serverHello, newSessionTicket, encryptedExtensions, certificate, certificateVerify, finished]

def ofValue? (value : UInt8) : Option HandshakeType := all.find? fun messageType => messageType.value = value

end HandshakeType

structure Extension where
  type : ℕ
  data : Bytes
  deriving DecidableEq

structure ClientHello where
  random : Bytes
  legacySessionId : Bytes
  cipherSuites : List ℕ
  extensions : List Extension
  deriving DecidableEq

structure ServerHello where
  random : Bytes
  legacySessionIdEcho : Bytes
  cipherSuite : ℕ
  extensions : List Extension
  deriving DecidableEq

structure EncryptedExtensions where
  extensions : List Extension
  deriving DecidableEq

structure CertificateEntry where
  data : Bytes
  extensions : List Extension
  deriving DecidableEq

structure Certificate where
  requestContext : Bytes
  entries : List CertificateEntry
  deriving DecidableEq

structure CertificateVerify where
  algorithm : ℕ
  signature : Bytes
  deriving DecidableEq

structure Finished where
  verifyData : Bytes
  deriving DecidableEq

structure NewSessionTicket where
  lifetime : ℕ
  ageAdd : ℕ
  nonce : Bytes
  ticket : Bytes
  extensions : List Extension
  deriving DecidableEq

inductive HandshakeMessage
  | clientHello (hello : ClientHello)
  | serverHello (hello : ServerHello)
  | encryptedExtensions (message : EncryptedExtensions)
  | certificate (message : Certificate)
  | certificateVerify (message : CertificateVerify)
  | finished (message : Finished)
  | newSessionTicket (message : NewSessionTicket)
  deriving DecidableEq

def HandshakeMessage.messageType : HandshakeMessage → HandshakeType
  | clientHello _ => .clientHello
  | serverHello _ => .serverHello
  | encryptedExtensions _ => .encryptedExtensions
  | certificate _ => .certificate
  | certificateVerify _ => .certificateVerify
  | finished _ => .finished
  | newSessionTicket _ => .newSessionTicket

def tlsLegacyVersion : ℕ := 0x0303

section Encoders

def vec (width : ℕ) (data : Bytes) : Except Raised Bytes :=
  concatEncoded [intToBytes data.length width, .ok data]

def vecOf {α : Type} (width : ℕ) (encode : α → Except Raised Bytes) (items : List α) : Except Raised Bytes := do
  let body ← concatEncoded (items.map encode)
  vec width body

def encodeExtension (ext : Extension) : Except Raised Bytes :=
  concatEncoded [intToBytes ext.type 2, vec 2 ext.data]

def encodeExtensions : List Extension → Except Raised Bytes := vecOf 2 encodeExtension

def handshakeMessage (messageType : HandshakeType) (body : Except Raised Bytes) : Except Raised Bytes := do
  let body ← body
  concatEncoded [.ok [messageType.value], vec 3 body]

def clientHelloBody (hello : ClientHello) : Except Raised Bytes :=
  concatEncoded
    [intToBytes tlsLegacyVersion 2, .ok hello.random, vec 1 hello.legacySessionId,
      vecOf 2 (intToBytes · 2) hello.cipherSuites, vec 1 [0], encodeExtensions hello.extensions]

def encodeClientHello (hello : ClientHello) : Except Raised Bytes :=
  handshakeMessage .clientHello (clientHelloBody hello)

def serverHelloBody (hello : ServerHello) : Except Raised Bytes :=
  concatEncoded
    [intToBytes tlsLegacyVersion 2, .ok hello.random, vec 1 hello.legacySessionIdEcho,
      intToBytes hello.cipherSuite 2, .ok [0], encodeExtensions hello.extensions]

def encodeServerHello (hello : ServerHello) : Except Raised Bytes :=
  handshakeMessage .serverHello (serverHelloBody hello)

def newSessionTicketBody (message : NewSessionTicket) : Except Raised Bytes :=
  concatEncoded
    [intToBytes message.lifetime 4, intToBytes message.ageAdd 4, vec 1 message.nonce, vec 2 message.ticket,
      encodeExtensions message.extensions]

def encodeNewSessionTicket (message : NewSessionTicket) : Except Raised Bytes :=
  handshakeMessage .newSessionTicket (newSessionTicketBody message)

def encodeEncryptedExtensions (message : EncryptedExtensions) : Except Raised Bytes :=
  handshakeMessage .encryptedExtensions (encodeExtensions message.extensions)

def encodeCertificateEntry (entry : CertificateEntry) : Except Raised Bytes :=
  concatEncoded [vec 3 entry.data, encodeExtensions entry.extensions]

def certificateBody (message : Certificate) : Except Raised Bytes :=
  concatEncoded [vec 1 message.requestContext, vecOf 3 encodeCertificateEntry message.entries]

def encodeCertificate (message : Certificate) : Except Raised Bytes :=
  handshakeMessage .certificate (certificateBody message)

def certificateVerifyBody (message : CertificateVerify) : Except Raised Bytes :=
  concatEncoded [intToBytes message.algorithm 2, vec 2 message.signature]

def encodeCertificateVerify (message : CertificateVerify) : Except Raised Bytes :=
  handshakeMessage .certificateVerify (certificateVerifyBody message)

def encodeFinished (message : Finished) : Except Raised Bytes :=
  handshakeMessage .finished (.ok message.verifyData)

def HandshakeMessage.encode : HandshakeMessage → Except Raised Bytes
  | clientHello hello => encodeClientHello hello
  | serverHello hello => encodeServerHello hello
  | encryptedExtensions message => encodeEncryptedExtensions message
  | certificate message => encodeCertificate message
  | certificateVerify message => encodeCertificateVerify message
  | finished message => encodeFinished message
  | newSessionTicket message => encodeNewSessionTicket message

end Encoders

section Parsers

def pullVec (width : ℕ) : Parser Bytes := do
  let length ← pullUint width
  pullBytes length

def pullWhile {α : Type} (item : Parser α) : ℕ → Parser (List α)
  | 0 => do
    let block ← get
    raiseIf (block.isEmpty = false) .diverges
    return []
  | rounds + 1 => do
    let block ← get
    if block.isEmpty then return []
    else
      let first ← item
      let others ← pullWhile item rounds
      return first :: others

def pullVecOf {α : Type} (width : ℕ) (item : Parser α) : Parser (List α) := do
  let block ← pullVec width
  lift ((pullWhile item block.length).run block)

def pullExtension : Parser Extension := do
  let type ← pullUint16
  let data ← pullVec 2
  return ⟨type, data⟩

def parseExtensions : Parser (List Extension) := pullVecOf 2 pullExtension

def parseClientHello : Parser ClientHello := do
  let version ← pullUint16
  raiseIf (version ≠ tlsLegacyVersion) (.handshakeParse "legacy_version is not 0x0303")
  let random ← pullBytes 32
  let sessionId ← pullVec 1
  let cipherSuites ← pullVecOf 2 pullUint16
  let methods ← pullVec 1
  raiseIf (methods ≠ [0]) (.handshakeParse "legacy_compression_methods is not null-only")
  let extensions ← parseExtensions
  return ⟨random, sessionId, cipherSuites, extensions⟩

def parseServerHello : Parser ServerHello := do
  let version ← pullUint16
  raiseIf (version ≠ tlsLegacyVersion) (.handshakeParse "legacy_version is not 0x0303")
  let random ← pullBytes 32
  let sessionIdEcho ← pullVec 1
  let cipherSuite ← pullUint16
  let method ← pullUint8
  raiseIf (method ≠ 0) (.handshakeParse "legacy_compression_method is not null")
  let extensions ← parseExtensions
  return ⟨random, sessionIdEcho, cipherSuite, extensions⟩

def pullCertificateEntry : Parser CertificateEntry := do
  let data ← pullVec 3
  let extensions ← parseExtensions
  return ⟨data, extensions⟩

def parseCertificate : Parser Certificate := do
  let requestContext ← pullVec 1
  let entries ← pullVecOf 3 pullCertificateEntry
  return ⟨requestContext, entries⟩

def parseNewSessionTicket : Parser NewSessionTicket := do
  let lifetime ← pullUint32
  let ageAdd ← pullUint32
  let nonce ← pullVec 1
  let ticket ← pullVec 2
  let extensions ← parseExtensions
  return ⟨lifetime, ageAdd, nonce, ticket, extensions⟩

def parseCertificateVerify : Parser CertificateVerify := do
  let algorithm ← pullUint16
  let signature ← pullVec 2
  return ⟨algorithm, signature⟩

def parseFinished : Parser Finished := do
  let body ← get
  let verifyData ← pullBytes body.remaining
  return ⟨verifyData⟩

def parseBody : HandshakeType → Parser HandshakeMessage
  | .clientHello => .clientHello <$> parseClientHello
  | .serverHello => .serverHello <$> parseServerHello
  | .encryptedExtensions => (fun extensions => .encryptedExtensions ⟨extensions⟩) <$> parseExtensions
  | .certificate => .certificate <$> parseCertificate
  | .certificateVerify => .certificateVerify <$> parseCertificateVerify
  | .finished => .finished <$> parseFinished
  | .newSessionTicket => .newSessionTicket <$> parseNewSessionTicket

def parseWholeBody (messageType : HandshakeType) : Parser HandshakeMessage := do
  let message ← parseBody messageType
  let body ← get
  raiseIf (body.isEmpty = false) (.handshakeParse s!"trailing bytes in {messageType.name}")
  return message

def pullHandshakeType : Parser HandshakeType := do
  let value ← pullUint8
  match HandshakeType.ofValue? value with
  | some messageType => return messageType
  | none => throw (.handshakeParse
      s!"unknown handshake message type: {value.toNat} is not a valid HandshakeType")

def parseHandshakeMessage (data : Bytes) : Except Raised (HandshakeMessage × ℕ) :=
  Parser.run (do
    let messageType ← pullHandshakeType
    let body ← pullVec 3
    let message ← lift ((parseWholeBody messageType).run body)
    let buf ← get
    return (message, buf.position)) data

end Parsers

end Dsquic.Tls
