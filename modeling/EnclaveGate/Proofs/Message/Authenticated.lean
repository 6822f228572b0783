import EnclaveGate.KeyExchange
import EnclaveGate.Proofs.Message.Codec
import EnclaveGate.Quote.Binding

/-!
# What is authenticated can be told apart

Signatures, digests and authentication codes speak about byte strings, and the parties mean the
fields that were put into them. Every field but at most one has a fixed length, so a string that is
authenticated determines all of its fields. The two strings that are authenticated under one key,
the payload of message 2 and the covered part of message 3, are never the same.
-/

namespace EnclaveGate

theorem Block.toList_inj {n : Nat} {a b : Block n} : a.toList = b.toList ↔ a = b := by
  constructor
  · exact Block.eq_of_toList_eq
  · rintro rfl
    rfl

/-- Two bytes are enough for a number of 16 bits. -/
theorem Bytes.leBytes_uint16_inj {v w : UInt16} :
    leBytes 2 v.toNat = leBytes 2 w.toNat ↔ v = w := by
  constructor
  · intro h
    have hnumber := leBytes_inj v.toNat_lt w.toNat_lt h
    exact UInt16.toNat_inj.mp hnumber
  · rintro rfl
    rfl

theorem QuoteType.toUInt16_inj {a b : QuoteType} : a.toUInt16 = b.toUInt16 ↔ a = b := by
  cases a <;> cases b <;> decide

theorem boolByte_inj {a b : Bool} : boolByte a = boolByte b ↔ a = b := by
  cases a <;> cases b <;> decide

theorem WireKey.toBytes_inj {a b : WireKey} : a.toBytes = b.toBytes ↔ a = b := by
  constructor
  · intro h
    obtain ⟨hx, hy⟩ := List.append_inj h (by simp)
    cases a
    cases b
    rw [mk.injEq]
    exact ⟨Block.toList_inj.mp hx, Block.toList_inj.mp hy⟩
  · rintro rfl
    rfl

theorem WireSignature.toBytes_inj {a b : WireSignature} : a.toBytes = b.toBytes ↔ a = b := by
  constructor
  · intro h
    obtain ⟨hr, hs⟩ := List.append_inj h (by simp)
    cases a
    cases b
    rw [mk.injEq]
    exact ⟨Block.toList_inj.mp hr, Block.toList_inj.mp hs⟩
  · rintro rfl
    rfl

/-! ## Messages 2 and 3 -/

namespace Msg2

variable {m m' : Msg2}

theorem length_payload (m : Msg2) : m.payload.length = payloadSize := by
  simp only [payload, payloadSize, List.length_append, WireKey.length_toBytes,
    WireSignature.length_toBytes, Vector.length_toList, Bytes.length_leBytes]

/-- The payload says all fields that it covers, and nothing else of the message. -/
theorem payload_inj : m.payload = m'.payload ↔
    m.gb = m'.gb ∧ m.spid = m'.spid ∧ m.quoteType = m'.quoteType ∧ m.kdfId = m'.kdfId ∧
      m.signature = m'.signature := by
  constructor
  · intro h
    -- the fields are taken off from the last one to the first one
    obtain ⟨h, hsignature⟩ := List.append_inj' h (by simp)
    obtain ⟨h, hkdfId⟩ := List.append_inj' h (by simp)
    obtain ⟨h, hquoteType⟩ := List.append_inj' h (by simp)
    obtain ⟨hgb, hspid⟩ := List.append_inj' h (by simp)
    have htype := Bytes.leBytes_uint16_inj.mp hquoteType
    exact ⟨WireKey.toBytes_inj.mp hgb, Block.toList_inj.mp hspid, QuoteType.toUInt16_inj.mp htype,
      Bytes.leBytes_uint16_inj.mp hkdfId, WireSignature.toBytes_inj.mp hsignature⟩
  · rintro ⟨hgb, hspid, hquoteType, hkdfId, hsignature⟩
    rw [payload, payload, hgb, hspid, hquoteType, hkdfId, hsignature]

end Msg2

namespace Msg3

variable {m m' : Msg3}

theorem length_macRegion (m : Msg3) : m.macRegion.length = 320 + m.quote.length := by
  simp only [macRegion, List.length_append, WireKey.length_toBytes, Vector.length_toList]

/-- The quote may have any length: it is what follows the two fields of fixed length. -/
theorem macRegion_inj : m.macRegion = m'.macRegion ↔
    m.ga = m'.ga ∧ m.psSecurityProperties = m'.psSecurityProperties ∧ m.quote = m'.quote := by
  constructor
  · intro h
    obtain ⟨h, hquote⟩ := List.append_inj h (by simp)
    obtain ⟨hga, hprops⟩ := List.append_inj h (by simp)
    exact ⟨WireKey.toBytes_inj.mp hga, Block.toList_inj.mp hprops, hquote⟩
  · rintro ⟨hga, hprops, hquote⟩
    rw [macRegion, macRegion, hga, hprops, hquote]

/-- A payload is too short for the covered part of message 3. -/
theorem payload_ne_macRegion (m₂ : Msg2) (m₃ : Msg3) : m₂.payload ≠ m₃.macRegion := by
  intro h
  have hlen := congrArg List.length h
  rw [Msg2.length_payload, length_macRegion, Msg2.payloadSize] at hlen
  omega

/-- The code stands first, and everything behind it is covered. -/
theorem drop_toBytes (m : Msg3) :
    m.toBytes.take 16 = m.cmac.toList ∧ m.toBytes.drop 16 = m.macRegion := by
  have hlen : m.cmac.toList.length = 16 := Vector.length_toList
  exact ⟨List.take_left' hlen, List.drop_left' hlen⟩

end Msg3

/-! ## Transcripts -/

theorem KeyExchange.transcript_inj {gb gb' ga ga' : WireKey} :
    transcript gb ga = transcript gb' ga' ↔ gb = gb' ∧ ga = ga' := by
  constructor
  · intro h
    obtain ⟨hgb, hga⟩ := List.append_inj h (by simp)
    exact ⟨WireKey.toBytes_inj.mp hgb, WireKey.toBytes_inj.mp hga⟩
  · rintro ⟨rfl, rfl⟩
    rfl

theorem bindingInput_inj {ga ga' gb gb' : WireKey} {vk vk' : DerivedKey} :
    bindingInput ga gb vk = bindingInput ga' gb' vk' ↔ ga = ga' ∧ gb = gb' ∧ vk = vk' := by
  constructor
  · intro h
    obtain ⟨h, hvk⟩ := List.append_inj' h (by simp)
    obtain ⟨hga, hgb⟩ := List.append_inj h (by simp)
    have hkey : vk = vk' := by
      cases vk
      cases vk'
      rw [DerivedKey.mk.injEq]
      exact Block.toList_inj.mp hvk
    exact ⟨WireKey.toBytes_inj.mp hga, WireKey.toBytes_inj.mp hgb, hkey⟩
  · rintro ⟨rfl, rfl, rfl⟩
    rfl

/-- The ciphertext may have any length: all fields before it and the tag behind it have a fixed
one. -/
theorem Msg4.transcript_inj {ga ga' gb gb' : WireKey} {cmac cmac' : Block 16}
    {enclaveTrusted enclaveTrusted' pseTrusted pseTrusted' : Bool}
    {secret secret' : EncryptedSecret} :
    transcript ga gb cmac enclaveTrusted pseTrusted secret =
        transcript ga' gb' cmac' enclaveTrusted' pseTrusted' secret' ↔
      ga = ga' ∧ gb = gb' ∧ cmac = cmac' ∧ enclaveTrusted = enclaveTrusted' ∧
        pseTrusted = pseTrusted' ∧ secret = secret' := by
  constructor
  · intro h
    obtain ⟨h, htag⟩ := List.append_inj' h (by simp)
    obtain ⟨h, hciphertext⟩ := List.append_inj h (by simp)
    obtain ⟨h, hiv⟩ := List.append_inj' h (by simp)
    obtain ⟨h, hflags⟩ := List.append_inj' h (by simp)
    obtain ⟨h, hcmac⟩ := List.append_inj' h (by simp)
    obtain ⟨hga, hgb⟩ := List.append_inj h (by simp)
    have hsecret : secret = secret' := by
      cases secret
      cases secret'
      rw [EncryptedSecret.mk.injEq]
      exact ⟨Block.toList_inj.mp hiv, hciphertext, Block.toList_inj.mp htag⟩
    obtain ⟨henclave, hrest⟩ := List.cons.inj hflags
    obtain ⟨hpse, -⟩ := List.cons.inj hrest
    exact ⟨WireKey.toBytes_inj.mp hga, WireKey.toBytes_inj.mp hgb, Block.toList_inj.mp hcmac,
      boolByte_inj.mp henclave, boolByte_inj.mp hpse, hsecret⟩
  · rintro ⟨rfl, rfl, rfl, rfl, rfl, rfl⟩
    rfl

/-! ## Labels -/

namespace KeyTree

@[simp] theorem length_derivationString (label : Bytes) :
    (derivationString label).length = label.length + 4 := by
  simp [derivationString]

/-- A label may contain the separator: only the bytes at both ends are fixed. -/
theorem derivationString_inj {label label' : Bytes} :
    derivationString label = derivationString label' ↔ label = label' := by
  constructor
  · intro h
    obtain ⟨hfront, -⟩ := List.append_inj' h rfl
    exact (List.cons.inj hfront).2
  · rintro rfl
    rfl

end KeyTree

/-- Whatever is signed, digested or authenticated determines the fields that were meant, for quotes,
ciphertexts and labels of any length. A code of message 2 is about no string that a code of message
3 is about, and the latter is about all bytes of the message behind the code. -/
theorem authenticated_strings_unambiguous :
    (∀ m m' : Msg2, m.payload = m'.payload ↔
      m.gb = m'.gb ∧ m.spid = m'.spid ∧ m.quoteType = m'.quoteType ∧ m.kdfId = m'.kdfId ∧
        m.signature = m'.signature) ∧
    (∀ m m' : Msg3, m.macRegion = m'.macRegion ↔
      m.ga = m'.ga ∧ m.psSecurityProperties = m'.psSecurityProperties ∧ m.quote = m'.quote) ∧
    (∀ (ga ga' gb gb' : WireKey) (cmac cmac' : Block 16)
      (enclaveTrusted enclaveTrusted' pseTrusted pseTrusted' : Bool)
      (secret secret' : EncryptedSecret),
      Msg4.transcript ga gb cmac enclaveTrusted pseTrusted secret =
          Msg4.transcript ga' gb' cmac' enclaveTrusted' pseTrusted' secret' ↔
        ga = ga' ∧ gb = gb' ∧ cmac = cmac' ∧ enclaveTrusted = enclaveTrusted' ∧
          pseTrusted = pseTrusted' ∧ secret = secret') ∧
    (∀ gb gb' ga ga' : WireKey,
      KeyExchange.transcript gb ga = KeyExchange.transcript gb' ga' ↔ gb = gb' ∧ ga = ga') ∧
    (∀ (ga ga' gb gb' : WireKey) (vk vk' : DerivedKey),
      bindingInput ga gb vk = bindingInput ga' gb' vk' ↔ ga = ga' ∧ gb = gb' ∧ vk = vk') ∧
    (∀ label label' : Bytes,
      KeyTree.derivationString label = KeyTree.derivationString label' ↔ label = label') ∧
    (∀ (m₂ : Msg2) (m₃ : Msg3), m₂.payload ≠ m₃.macRegion) ∧
    (∀ m : Msg3, m.toBytes = m.cmac.toList ++ m.macRegion ∧
      m.toBytes.take 16 = m.cmac.toList ∧ m.toBytes.drop 16 = m.macRegion) := by
  refine ⟨?_, ?_, ?_, ?_, ?_, ?_, ?_, ?_⟩
  · intro m m'
    exact Msg2.payload_inj
  · intro m m'
    exact Msg3.macRegion_inj
  · intros
    exact Msg4.transcript_inj
  · intros
    exact KeyExchange.transcript_inj
  · intros
    exact bindingInput_inj
  · intros
    exact KeyTree.derivationString_inj
  · exact Msg3.payload_ne_macRegion
  · intro m
    exact ⟨rfl, Msg3.drop_toBytes m⟩

end EnclaveGate
