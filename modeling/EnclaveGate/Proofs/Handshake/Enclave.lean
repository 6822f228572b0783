import EnclaveGate.Proofs.Crypto.Ecdsa
import EnclaveGate.Proofs.Crypto.Sealing
import EnclaveGate.Proofs.Quote.Codec
import EnclaveGate.Proofs.Session.Evidence
import EnclaveGate.Proofs.Session.Offer

/-!
# The enclave's side of a handshake

An enclave sends its public key, derives the key tree from the answer, and sends a quote that is
bound to both keys. It spans the same tree as the server, so what the server authenticates and
encrypts it can check and read, and its evidence passes the checks of the server.
-/

namespace EnclaveGate

/-- An enclave with its ephemeral key and what it reports about itself. -/
structure Enclave where
  /-- The ephemeral key. -/
  ephemeral : P256.SecretKey
  /-- The group of the platform. -/
  groupId : GroupId
  /-- The attribute flags. -/
  attributeFlags : UInt64
  /-- The measurement of the code. -/
  mrEnclave : Measurement
  /-- The measurement of the signer. -/
  mrSigner : Measurement
  /-- The product number. -/
  isvProdId : UInt16
  /-- The security version. -/
  isvSvn : UInt16
  /-- The second half of the report data. -/
  note : Block 32
  /-- The security properties of the platform services. -/
  psSecurityProperties : Block 256

namespace Enclave

variable (enclave : Enclave) (id : SessionId) (ga gb : WireKey) (kdk : DerivedKey)

/-- Message 1. -/
def msg1 : Msg1 := ⟨id, enclave.groupId, ga⟩

/-- The root of the key tree, from the key in message 2. -/
def root : Except Error DerivedKey := do
  let peer ← gb.decode
  KeyExchange.root enclave.ephemeral peer

/-- The body of a quote that is bound to the key exchange. -/
def quoteBody : QuoteBody :=
  { groupId := enclave.groupId
    attributeFlags := enclave.attributeFlags
    mrEnclave := enclave.mrEnclave
    mrSigner := enclave.mrSigner
    isvProdId := enclave.isvProdId
    isvSvn := enclave.isvSvn
    reportData := keyExchangeBinding ga gb (KeyTree.derive kdk .vk) ++ enclave.note }

/-- Message 3 with an unsigned quote. -/
def msg3 : Msg3 :=
  let draft : Msg3 :=
    { sessionId := id
      cmac := Block.zero 16
      ga
      psSecurityProperties := enclave.psSecurityProperties
      quote := (enclave.quoteBody ga gb kdk).unsignedQuote }
  { draft with cmac := (KeyTree.derive kdk .smk).mac draft.macRegion }

end Enclave

/-- Message 2 passes the checks of an enclave. -/
structure Msg2.Genuine (msg2 : Msg2) (longTerm : P256.PublicKey) (ga : WireKey) (kdk : DerivedKey) :
    Prop where
  /-- The authentication code is right. -/
  authentic : (KeyTree.derive kdk .smk).verify msg2.payload msg2.cmac.toList = true
  /-- Both keys are signed with the long-term key. -/
  signed : ∃ signature, msg2.signature.decode = .ok signature ∧
    KeyExchange.verify longTerm msg2.gb ga signature = true

/-- Message 4 brings a secret to the enclave that sent message 3. -/
structure Msg4.Brings (msg4 : Msg4) (secret : Bytes) (msg3 : Msg3) (gb : WireKey)
    (kdk : DerivedKey) : Prop where
  /-- The enclave is trusted. -/
  trusted : msg4.result.enclaveTrusted = true
  /-- The secret can be decrypted, and the authentication code is that of the transcript. -/
  received : ∃ encrypted, msg4.encryptedSecret = some encrypted ∧
    EncryptedSecret.decrypt (KeyTree.derive kdk .sk) encrypted = .ok secret ∧
    (KeyTree.derive kdk .mk).verify (Msg4.transcript msg3.ga gb msg3.cmac
      msg4.result.enclaveTrusted msg4.result.pseTrusted encrypted) msg4.finalCmac.toList = true

namespace Enclave

variable {enclave : Enclave} {settings : Settings} {id : SessionId}

/-! ## Message 2 -/

/-- A message that is authenticated passes the check, whatever the revocation list. -/
theorem verify_authenticate (smk : DerivedKey) (draft : Msg2) (sigRl : Bytes) :
    smk.verify ({ Offer.authenticate smk draft with sigRl } : Msg2).payload
      ({ Offer.authenticate smk draft with sigRl } : Msg2).cmac.toList = true := by
  rw [DerivedKey.verify_iff]
  rfl

section Offer

variable {peer key : P256.PublicKey} {ephemeral : P256.SecretKey}

/-- The enclave finds the root that the server kept. -/
theorem root_eq (he : enclave.ephemeral.publicKey? = some peer)
    (hk : ephemeral.publicKey? = some key) :
    enclave.root key.wire = .ok (KeyExchange.rootOf (ephemeral.sharedCoordinate peer)) := by
  rw [root, bind_of_ok (WireKey.decode_wire key), KeyExchange.root_eq,
    P256.SecretKey.sharedCoordinate_comm he hk]

/-- Message 2 passes the checks of the enclave. -/
theorem genuine {msg1 : Msg1} {longTerm : P256.PublicKey} {c : P256.Coordinate}
    {signature : Ecdsa.Signature} (hl : settings.longTermKey.publicKey? = some longTerm)
    (hs : Ecdsa.sign? settings.longTermKey (KeyExchange.transcript key.wire msg1.ga) =
      some signature) (sigRl : Bytes) :
    ({ (Offer.between settings msg1 c key.wire signature.wire).msg2 with sigRl } : Msg2).Genuine
      longTerm msg1.ga (KeyExchange.rootOf c) := by
  have hv := Ecdsa.verify_of_sign? hl hs
  constructor
  · exact verify_authenticate _ _ sigRl
  · exact ⟨signature, WireSignature.decode_wire signature, hv⟩

end Offer

/-! ## Message 3 -/

/-- The evidence of the enclave belongs to the handshake. -/
theorem matches_msg3 (enclave : Enclave) (id : SessionId) {h : Handshake}
    (hgroup : h.groupId = enclave.groupId)
    (hsmk : h.smk = KeyTree.derive h.kdk .smk) :
    h.Matches (enclave.msg3 id h.ga h.gb h.kdk) (enclave.quoteBody h.ga h.gb h.kdk) := by
  constructor
  · rw [hsmk]
    rfl
  · rfl
  · exact QuoteBody.parse_quoteWith _ [] (by decide)
  · exact hgroup.symm
  · have hdata : (enclave.quoteBody h.ga h.gb h.kdk).reportData.toList =
        h.binding.toList ++ enclave.note.toList := Vector.toList_append
    rw [hdata]
    exact List.take_left' Vector.length_toList

end Enclave

/-! ## Message 4 -/

/-- A text that is short enough is encrypted under a vector from the tape, and can be decrypted. -/
theorem EncryptedSecret.exists_encrypt {plaintext : Bytes} {tape : Tape} (sk : DerivedKey)
    (hrandom : 12 ≤ tape.size) (hfits : plaintext.length ≤ Gcm.maxPlaintext) :
    ∃ encrypted rest, EncryptedSecret.encrypt sk plaintext tape = (.ok encrypted, rest) ∧
      EncryptedSecret.decrypt sk encrypted = .ok plaintext := by
  obtain ⟨encrypted, he⟩ :=
    (EncryptedSecret.encrypt_ok_iff sk plaintext tape).mpr ⟨hrandom, hfits⟩
  refine ⟨encrypted, (EncryptedSecret.encrypt sk plaintext tape).2, Prod.ext he rfl, ?_⟩
  unfold EncryptedSecret.encrypt at he
  split at he
  · cases he
  · exact EncryptedSecret.decrypt_of_encryptWith he

/-- A trusted enclave is brought the secret, and its session is established. -/
theorem Session.finishMsg3_brings {settings : Settings} (session : Session) (evidence : Evidence)
    {tape : Tape} {verdict : QuoteVerdict}
    (htrusted : settings.policy.evaluate evidence.quote verdict = .ok ())
    (hrandom : 12 ≤ tape.size) (hfits : settings.secret.length ≤ Gcm.maxPlaintext)
    (hga : evidence.msg3.ga = evidence.handshake.ga) :
    (session.finishMsg3 settings evidence tape (.ok verdict)).1.session =
        session.moveTo .established ∧
      ∃ msg4, (session.finishMsg3 settings evidence tape (.ok verdict)).1.result = .ok msg4 ∧
        msg4.Brings settings.secret evidence.msg3 evidence.handshake.gb evidence.handshake.kdk := by
  obtain ⟨encrypted, rest, henc, hdec⟩ := EncryptedSecret.exists_encrypt
    (KeyTree.derive evidence.handshake.kdk .sk) hrandom hfits
  have hanswer : (session.finishMsg3 settings evidence tape (.ok verdict)).1 =
      session.establish verdict.status
        (.ok (evidence.msg4 (Evidence.trustedResult verdict) encrypted)) := by
    simp only [Session.finishMsg3, htrusted, Evidence.release, henc, Except.map]
  rw [hanswer]
  refine ⟨rfl, _, rfl, rfl, encrypted, rfl, hdec, ?_⟩
  rw [DerivedKey.verify_iff, hga]
  rfl

end EnclaveGate
