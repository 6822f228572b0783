import EnclaveGate.Proofs.Bytes.Xor
import EnclaveGate.Session.Request

/-!
# What the checks of message 3 stand for

The checks of the evidence pass exactly if the message is authentic, repeats the key of message 1
and holds a readable quote of the same group that is bound to the key exchange. Behind them the
secret is released exactly if the authority answers in time, the policy accepts its verdict, a
vector can be drawn and the secret is short enough to be encrypted.
-/

namespace EnclaveGate

/-- Evidence that belongs to a handshake. -/
structure Handshake.Matches (handshake : Handshake) (msg3 : Msg3) (quote : QuoteBody) : Prop where
  /-- The authentication code is that of the key, the security properties and the quote. -/
  authentic : msg3.cmac = handshake.smk.mac
    (msg3.ga.toBytes ++ msg3.psSecurityProperties.toList ++ msg3.quote)
  /-- The key is that of message 1. -/
  sameKey : msg3.ga = handshake.ga
  /-- The quote can be read. -/
  readable : QuoteBody.parse msg3.quote = .ok quote
  /-- The group is that of message 1. -/
  sameGroup : quote.groupId = handshake.groupId
  /-- The first half of the report data is the digest of both keys and the verification key. -/
  bound : quote.reportData.toList.take 32 = (Sha256.digest (handshake.ga.toBytes ++
    handshake.gb.toBytes ++ (KeyTree.derive handshake.kdk .vk).bytes.toList)).toList

namespace Handshake

variable {handshake : Handshake} {msg3 : Msg3} {quote : QuoteBody}

theorem checkQuote_ok_iff {body : QuoteBody} :
    handshake.checkQuote body = .ok quote ↔
      body = quote ∧ body.groupId = handshake.groupId ∧ body.isBoundTo handshake.binding = true := by
  unfold checkQuote
  split
  · rename_i hg
    simp [hg]
  · rename_i hg
    simp only [Decidable.not_not] at hg
    cases hb : body.isBoundTo handshake.binding with
    | false => simp
    | true => simp [hg]

/-- The checks pass for evidence that belongs to the handshake and for nothing else. -/
theorem check_ok_iff : handshake.check msg3 = .ok quote ↔ handshake.Matches msg3 quote := by
  unfold check
  cases hv : handshake.smk.verify msg3.macRegion msg3.cmac.toList with
  | false =>
    simp only [Bool.not_false, if_true, reduceCtorEq, false_iff]
    intro h
    have hm := (DerivedKey.verify_iff handshake.smk msg3.macRegion msg3.cmac).mpr h.authentic
    rw [hv] at hm
    exact absurd hm (by simp)
  | true =>
    have hm := (DerivedKey.verify_iff handshake.smk msg3.macRegion msg3.cmac).mp hv
    by_cases hga : msg3.ga = handshake.ga
    · cases hp : QuoteBody.parse msg3.quote with
      | error e =>
        simp only [Bool.not_true, Bool.false_eq_true, if_false, hga, ne_eq, not_true_eq_false,
          reduceCtorEq, false_iff]
        intro h
        exact absurd (hp.symm.trans h.readable) (by simp)
      | ok body =>
        simp only [Bool.not_true, Bool.false_eq_true, if_false, hga, ne_eq, not_true_eq_false,
          checkQuote_ok_iff]
        constructor
        · rintro ⟨rfl, hg, hb⟩
          exact ⟨hm, hga, hp, hg, (Bytes.constantTimeEq_iff _ _).mp hb⟩
        · intro h
          have hbody : body = quote := Except.ok.inj (hp.symm.trans h.readable)
          exact ⟨hbody, hbody ▸ h.sameGroup, hbody ▸ (Bytes.constantTimeEq_iff _ _).mpr h.bound⟩
    · simp only [Bool.not_true, Bool.false_eq_true, if_false, ne_eq, hga, not_false_eq_true, if_true,
        reduceCtorEq, false_iff]
      intro h
      exact hga h.sameKey

end Handshake

/-! ## Releasing the secret -/

/-- An answer counts if it comes within the limit. -/
theorem Reply.within_ok_iff {α : Type} {reply : Reply α} {limit : Nat} {a : α} :
    reply.within limit = .ok a ↔ reply.delay ≤ limit ∧ reply.answer = .ok a := by
  unfold Reply.within Reply.inTime
  by_cases h : reply.delay ≤ limit <;> simp [h]

/-- A text is encrypted if it is short enough and a vector can be drawn. -/
theorem EncryptedSecret.encrypt_ok_iff (sk : DerivedKey) (plaintext : Bytes) (tape : Tape) :
    (∃ secret, (EncryptedSecret.encrypt sk plaintext tape).1 = .ok secret) ↔
      12 ≤ tape.size ∧ plaintext.length ≤ Gcm.maxPlaintext := by
  unfold EncryptedSecret.encrypt
  cases hd : tape.draw? 12 with
  | none =>
    have hs := Tape.draw?_eq_none_iff.mp hd
    simp only [reduceCtorEq, exists_false, false_iff, not_and]
    omega
  | some p =>
    obtain ⟨iv, rest⟩ := p
    have hs := Tape.size_of_draw? hd
    have h12 : 12 ≤ tape.size := by omega
    by_cases hl : plaintext.length ≤ Gcm.maxPlaintext <;>
      simp [EncryptedSecret.encryptWith, Gcm.encrypt?, hl, h12]

/-- Behind the checks, the secret is released if the authority answers, the policy accepts its
verdict and the secret can be encrypted, and in no other case. -/
theorem Session.finishMsg3_releases_iff {settings : Settings} {session : Session}
    {evidence : Evidence} {tape : Tape} {reply : Except Error QuoteVerdict} :
    (∃ msg4 secret, (session.finishMsg3 settings evidence tape reply).1.result = .ok msg4 ∧
      msg4.encryptedSecret = some secret) ↔
    ∃ verdict, reply = .ok verdict ∧ settings.policy.evaluate evidence.quote verdict = .ok () ∧
      12 ≤ tape.size ∧ settings.secret.length ≤ Gcm.maxPlaintext := by
  cases reply with
  | error e => simp [Session.finishMsg3, Session.endWith]
  | ok verdict =>
    cases he : settings.policy.evaluate evidence.quote verdict with
    | error denial =>
      simp only [Session.finishMsg3, he, Session.endWith, Except.ok.injEq]
      constructor
      · rintro ⟨msg4, secret, rfl, hs⟩
        simp [Msg4.denial] at hs
      · rintro ⟨_, rfl, h, -⟩
        rw [he] at h
        cases h
    | ok _ =>
      simp only [Session.finishMsg3, he, Evidence.release]
      rw [← EncryptedSecret.encrypt_ok_iff (KeyTree.derive evidence.handshake.kdk .sk)]
      cases hx : (EncryptedSecret.encrypt (KeyTree.derive evidence.handshake.kdk .sk)
          settings.secret tape).1 with
      | error e => simp [Session.establish, Session.endWith, Except.map]
      | ok secret => simp [Session.establish, Except.map, Evidence.msg4, he]

end EnclaveGate
