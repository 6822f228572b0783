import EnclaveGate.Proofs.Session.Offer
import EnclaveGate.Proofs.Session.Evidence
import EnclaveGate.Proofs.Traffic.History
import EnclaveGate.Proofs.Traffic.Mask

/-!
# What the secret and the long-term key show up in

Two runs that take the same steps on the same random bytes, with settings that differ only in the
secret, have the same table, the same journal and the same answers, but for the ciphertext, its tag
and the code of an answer that trusts its enclave. With settings that differ only in the long-term
key they differ only in the signature and the code of message 2, if no signature fails.
-/

namespace EnclaveGate

/-! ## The two masks -/

/-- An encrypted secret with its ciphertext and its tag hidden. -/
def EncryptedSecret.hide (secret : EncryptedSecret) : EncryptedSecret :=
  { secret with ciphertext := [], tag := Block.zero 16 }

/-- Message 4 with everything hidden that is made of the secret. -/
def Msg4.hide (msg4 : Msg4) : Msg4 :=
  if msg4.result.enclaveTrusted then
    ⟨msg4.result, msg4.encryptedSecret.map (·.hide), Block.zero 16⟩
  else msg4

/-- Message 2 with everything hidden that is made with the long-term key. -/
def Msg2.hide (msg2 : Msg2) : Msg2 :=
  { msg2 with signature := ⟨Block.zero 32, Block.zero 32⟩, cmac := Block.zero 16 }

theorem Msg4.result_hide (msg4 : Msg4) : msg4.hide.result = msg4.result := by
  unfold hide
  split <;> rfl

theorem Msg4.hide_of_not_trusted {msg4 : Msg4} (h : msg4.result.enclaveTrusted = false) :
    msg4.hide = msg4 := by
  rw [hide, h]
  rfl

theorem Msg4.hide_hide (msg4 : Msg4) : msg4.hide.hide = msg4.hide := by
  cases h : msg4.result.enclaveTrusted with
  | false => rw [hide_of_not_trusted h, hide_of_not_trusted h]
  | true =>
    have hhide : msg4.hide = ⟨msg4.result, msg4.encryptedSecret.map (·.hide), Block.zero 16⟩ := by
      rw [hide, h]
      rfl
    have hsecret : (msg4.encryptedSecret.map (·.hide)).map (·.hide) =
        msg4.encryptedSecret.map (·.hide) := by
      cases msg4.encryptedSecret <;> rfl
    rw [hhide, hide, h, hsecret]
    rfl

/-- Hides what is made of the secret. -/
def Mask.secret : Mask where
  msg2 := id
  msg4 := Msg4.hide
  msg2_msg2 _ := rfl
  msg4_msg4 := Msg4.hide_hide
  msg2_sigRl _ _ := rfl
  result_msg4 := Msg4.result_hide

/-- Hides what is made with the long-term key. -/
def Mask.longTermKey : Mask where
  msg2 := Msg2.hide
  msg4 := id
  msg2_msg2 _ := rfl
  msg4_msg4 _ := rfl
  msg2_sigRl _ _ := rfl
  result_msg4 _ := rfl

variable {settings settings' : Settings}

/-! ## Settings with another secret -/

/-- What an offer reads of the settings. -/
theorem Offer.make_congr (hspid : settings.spid = settings'.spid)
    (hkey : settings.longTermKey = settings'.longTermKey)
    (hquote : settings.quoteType = settings'.quoteType) (msg1 : Msg1) (tape : Tape) :
    Offer.make settings msg1 tape = Offer.make settings' msg1 tape := by
  simp only [make, withEphemeral, draft, hspid, hkey, hquote]

theorem EncryptedSecret.encryptWith_of_fits (sk : DerivedKey) (iv : Block 12) {plaintext : Bytes}
    (h : plaintext.length ≤ Gcm.maxPlaintext) :
    ∃ ciphertext tag, encryptWith sk iv plaintext = .ok ⟨iv, ciphertext, tag⟩ := by
  simp [encryptWith, Gcm.encrypt?, h]

theorem Evidence.hide_msg4 (evidence : Evidence) (verdict : QuoteVerdict)
    (secret : EncryptedSecret) :
    (evidence.msg4 (trustedResult verdict) secret).hide =
      ⟨trustedResult verdict, some secret.hide, Block.zero 16⟩ := rfl

/-- Secrets of bearable length are released alike. -/
theorem Evidence.release_alike (evidence : Evidence) (verdict : QuoteVerdict) (tape : Tape)
    {secret secret' : Bytes} (h : secret.length ≤ Gcm.maxPlaintext)
    (h' : secret'.length ≤ Gcm.maxPlaintext) :
    (evidence.release secret (trustedResult verdict) tape).1.map Msg4.hide =
      (evidence.release secret' (trustedResult verdict) tape).1.map Msg4.hide ∧
    (evidence.release secret (trustedResult verdict) tape).2 =
      (evidence.release secret' (trustedResult verdict) tape).2 := by
  generalize hsk : KeyTree.derive evidence.handshake.kdk .sk = sk
  simp only [release, EncryptedSecret.encrypt, hsk]
  cases hd : tape.draw? 12 with
  | none => exact ⟨rfl, rfl⟩
  | some p =>
    obtain ⟨iv, rest⟩ := p
    obtain ⟨ciphertext, tag, he⟩ := EncryptedSecret.encryptWith_of_fits sk iv h
    obtain ⟨ciphertext', tag', he'⟩ := EncryptedSecret.encryptWith_of_fits sk iv h'
    simp only [he, he', Except.map, hide_msg4, EncryptedSecret.hide, and_self]

theorem Session.map_establish_congr (session : Session) (status : QuoteStatus)
    {answer answer' : Except Error Msg4} (h : answer.map Msg4.hide = answer'.map Msg4.hide) :
    (session.establish status answer).map Msg4.hide =
      (session.establish status answer').map Msg4.hide := by
  cases answer with
  | error e =>
    cases answer' with
    | error e' =>
      cases h
      rfl
    | ok msg4' => cases h
  | ok msg4 =>
    cases answer' with
    | error e' => cases h
    | ok msg4' =>
      have hmsg4 : msg4.hide = msg4'.hide := Except.ok.inj h
      simp only [establish, Outcome.map, Except.map, hmsg4]

/-- Under another secret everything looks the same where the secret is hidden. -/
theorem Mask.covers_secret {p : Msg1 → Tape → Prop} (settings : Settings) {secret : Bytes}
    (h : settings.secret.length ≤ Gcm.maxPlaintext) (h' : secret.length ≤ Gcm.maxPlaintext) :
    Mask.secret.Covers p settings { settings with secret } where
  cap := rfl
  limit := rfl
  patience := rfl
  fetch := rfl
  draws m tape _ := congrArg Prod.snd (Offer.make_congr rfl rfl rfl m tape)
  offers m tape _ :=
    congrArg (fun r => r.1.map Mask.secret.offer) (Offer.make_congr rfl rfl rfl m tape)
  answers session evidence tape reply := by
    cases reply with
    | error e => exact ⟨rfl, rfl⟩
    | ok verdict =>
      simp only [Session.finishMsg3]
      cases settings.policy.evaluate evidence.quote verdict with
      | error denial => exact ⟨rfl, rfl⟩
      | ok _ =>
        obtain ⟨hanswer, hrest⟩ := evidence.release_alike verdict tape h h'
        exact ⟨session.map_establish_congr verdict.status hanswer, hrest⟩

/-! ## Settings with another long-term key -/

/-- The signature in an offer exists. -/
def Offer.Signs (longTermKey : P256.SecretKey) (msg1 : Msg1) (tape : Tape) : Prop :=
  ∀ peer ephemeral rest gb, msg1.ga.decode = .ok peer →
    P256.SecretKey.draw? tape = some (ephemeral, rest) → WireKey.ofSecret ephemeral = .ok gb →
    (Ecdsa.sign? longTermKey (KeyExchange.transcript gb msg1.ga)).isSome = true

theorem Offer.hide_between (settings : Settings) (msg1 : Msg1) (c : P256.Coordinate) (gb : WireKey)
    (signature : WireSignature) :
    Mask.longTermKey.offer (between settings msg1 c gb signature) =
      ⟨⟨msg1.ga, gb, msg1.groupId, KeyExchange.rootOf c,
          KeyTree.derive (KeyExchange.rootOf c) .smk⟩,
        ⟨gb, settings.spid, settings.quoteType, kdfId, ⟨Block.zero 32, Block.zero 32⟩,
          Block.zero 16, []⟩⟩ := rfl

/-- Where the signature exists, a point of the curve is answered with an offer. -/
theorem Offer.make_of_signs {msg1 : Msg1} {tape rest : Tape} {peer pub : P256.PublicKey}
    {ephemeral : P256.SecretKey} (h : Signs settings.longTermKey msg1 tape)
    (hp : msg1.ga.decode = .ok peer) (hd : P256.SecretKey.draw? tape = some (ephemeral, rest))
    (hpub : ephemeral.publicKey? = some pub) :
    ∃ signature, Offer.make settings msg1 tape =
      (.ok (between settings msg1 (ephemeral.sharedCoordinate peer) pub.wire signature), rest) := by
  have hsign := h peer ephemeral rest pub.wire hp hd (WireKey.ofSecret_eq hpub)
  obtain ⟨signature, hs⟩ := Option.isSome_iff_exists.mp hsign
  exact ⟨signature.wire, by rw [make_eq hp hd, withEphemeral_eq hpub hs]⟩

/-- Where both long-term keys can sign, the offers draw and settle the same. -/
theorem Offer.make_alike (hspid : settings.spid = settings'.spid)
    (hquote : settings.quoteType = settings'.quoteType) {msg1 : Msg1} {tape : Tape}
    (h : Signs settings.longTermKey msg1 tape) (h' : Signs settings'.longTermKey msg1 tape) :
    (Offer.make settings msg1 tape).1.map Mask.longTermKey.offer =
      (Offer.make settings' msg1 tape).1.map Mask.longTermKey.offer ∧
    (Offer.make settings msg1 tape).2 = (Offer.make settings' msg1 tape).2 := by
  cases hp : msg1.ga.decode with
  | error e => simp only [make, hp, and_self]
  | ok peer =>
    cases hd : P256.SecretKey.draw? tape with
    | none => simp only [make, hp, hd, and_self]
    | some p =>
      obtain ⟨ephemeral, rest⟩ := p
      obtain ⟨pub, hpub⟩ := ephemeral.exists_publicKey
      obtain ⟨signature, hm⟩ := make_of_signs h hp hd hpub
      obtain ⟨signature', hm'⟩ := make_of_signs h' hp hd hpub
      simp only [hm, hm', Except.map, hide_between, hspid, hquote, and_self]

/-- What an answer to evidence reads of the settings. -/
theorem Session.finishMsg3_congr (hpolicy : settings.policy = settings'.policy)
    (hsecret : settings.secret = settings'.secret) (session : Session) (evidence : Evidence)
    (tape : Tape) (reply : Except Error QuoteVerdict) :
    session.finishMsg3 settings evidence tape reply =
      session.finishMsg3 settings' evidence tape reply := by
  cases reply with
  | error e => rfl
  | ok verdict => simp only [finishMsg3, hpolicy, hsecret]

/-- Under another long-term key everything looks the same where what is made with it is hidden. -/
theorem Mask.covers_longTermKey {p : Msg1 → Tape → Prop}
    (hsame : settings' = { settings with longTermKey := settings'.longTermKey })
    (h : ∀ m tape, p m tape → Offer.Signs settings.longTermKey m tape)
    (h' : ∀ m tape, p m tape → Offer.Signs settings'.longTermKey m tape) :
    Mask.longTermKey.Covers p settings settings' := by
  have hspid : settings.spid = settings'.spid := by rw [hsame]
  have hquote : settings.quoteType = settings'.quoteType := by rw [hsame]
  have hpolicy : settings.policy = settings'.policy := by rw [hsame]
  have hsecret : settings.secret = settings'.secret := by rw [hsame]
  constructor
  case cap => rw [hsame]
  case limit => rw [hsame]
  case patience => rw [hsame]
  case fetch => rw [hsame]
  case draws =>
    intro m tape hf
    exact (Offer.make_alike hspid hquote (h m tape hf) (h' m tape hf)).2
  case offers =>
    intro m tape hf
    exact (Offer.make_alike hspid hquote (h m tape hf) (h' m tape hf)).1
  case answers =>
    intro session evidence tape reply
    rw [Session.finishMsg3_congr hpolicy hsecret session evidence tape reply]
    exact ⟨rfl, rfl⟩

/-! ## Runs -/

namespace Traffic

/-- Two points of two runs that look the same under a mask. -/
structure Alike (mask : Mask) (settings settings' : Settings) (t t' : Traffic) : Prop where
  /-- The table with all sessions, the random bytes, the time and the journal are the same. -/
  server : t.server = t'.server
  /-- Every call stands where the other one stands, with the same answer or error but for what is
  hidden. -/
  calls : t.calls.map mask.call = t'.calls.map mask.call
  /-- Whoever opens a session gets the same answer. -/
  opens : (t.server.openSession settings).1 = (t'.server.openSession settings').1
  /-- A purge tells the same number. -/
  purges : (t.server.purge settings).1 = (t'.server.purge settings').1
  /-- Requests for an id are admitted alike. -/
  admits : ∀ id, t.server.contains settings id = t'.server.contains settings' id

variable {t t' : Traffic}

theorem Alike.of_masked {mask : Mask} (cap : settings.maxSessions = settings'.maxSessions)
    (limit : settings.sessionTimeout = settings'.sessionTimeout)
    (heq : mask.traffic t = mask.traffic t') : Alike mask settings settings' t t' := by
  have hserver : (mask.traffic t).server = (mask.traffic t').server := by rw [heq]
  have hcalls : (mask.traffic t).calls = (mask.traffic t').calls := by rw [heq]
  rw [Mask.server_traffic, Mask.server_traffic] at hserver
  constructor
  case server => exact hserver
  case calls => exact hcalls
  case opens => rw [hserver, Server.openSession_congr cap limit]
  case purges => rw [hserver, Server.purge_congr limit]
  case admits =>
    intro id
    rw [hserver, Server.contains_congr limit]

/-! ## Runs that trust nobody -/

/-- A call is answered with a message 4 that trusts its enclave. -/
def Trusts (t : Traffic) : Prop :=
  ∃ (i : Nat) (m : Msg3) (stand : Stand (.msg3 m)) (msg4 : Msg4),
    t.calls[i]? = some ⟨.msg3 m, stand⟩ ∧ stand.result? = some (.ok msg4) ∧
      msg4.result.enclaveTrusted = true

theorem Trusts.step (h : t.Trusts) (action : Action) : (t.step settings action).Trusts := by
  obtain ⟨i, m, stand, msg4, hi, hr, ht⟩ := h
  by_cases ha : action = .leave i
  · subst ha
    cases stand with
    | refused cause => cases hr
    | admitted ticket => cases hr
    | asking visit pending => cases hr
    | leaving visit r =>
      have hleft : (t.step settings (.leave i)).calls[i]? = some ⟨.msg3 m, .answered visit r⟩ := by
        simp only [Traffic.step, leave, hi]
        exact set_self hi
      exact ⟨i, m, .answered visit r, msg4, hleft, hr, ht⟩
    | answered visit r =>
      have hsame : t.step settings (.leave i) = t := by simp only [Traffic.step, leave, hi]
      rw [hsame]
      exact ⟨i, m, .answered visit r, msg4, hi, hr, ht⟩
  · exact ⟨i, m, stand, msg4, calls_step_of_result hi (by simp [hr]) ha, hr, ht⟩

theorem Trusts.run (h : t.Trusts) (actions : List Action) : (t.run settings actions).Trusts := by
  induction actions generalizing t with
  | nil => exact h
  | cons action actions ih => exact ih (h.step action)

/-- An answer that trusts its enclave still does where the secret is hidden. -/
theorem Trusts.masked (h : t.Trusts) : (Mask.secret.traffic t).Trusts := by
  obtain ⟨i, m, stand, msg4, hi, hr, ht⟩ := h
  have hresult : (Mask.secret.stand stand).result? = some (.ok msg4.hide) := by
    cases stand with
    | refused cause => cases hr
    | admitted ticket => cases hr
    | asking visit pending => cases hr
    | leaving visit r =>
      cases hr
      rfl
    | answered visit r =>
      cases hr
      rfl
  exact ⟨i, m, Mask.secret.stand stand, msg4.hide, Mask.calls_traffic .secret hi, hresult,
    by rw [Msg4.result_hide, ht]⟩

/-- Nothing is hidden where nobody is trusted. -/
theorem masked_of_not_trusts (h : ¬ t.Trusts) : Mask.secret.traffic t = t := by
  have hcall : ∀ c ∈ t.calls, Mask.secret.call c = c := by
    intro c hc
    obtain ⟨i, hi⟩ := List.mem_iff_getElem?.mp hc
    obtain ⟨request, stand⟩ := c
    -- the mask leaves every answer as it is but a message 4 that trusts, of which there is none
    have hanswer : ∀ r, stand.result? = some r → r.map (Mask.secret.answer request) = r := by
      intro r hr
      cases r with
      | error e => rfl
      | ok answer =>
        cases request with
        | msg1 m => rfl
        | msg3 m =>
          have hdenied : Msg4.hide answer = answer := by
            refine Msg4.hide_of_not_trusted (Bool.eq_false_iff.mpr fun ht => ?_)
            exact h ⟨i, m, stand, answer, hi, hr, ht⟩
          exact congrArg Except.ok hdenied
    cases stand with
    | refused cause => rfl
    | admitted ticket => rfl
    | asking visit pending => cases request <;> rfl
    | leaving visit r => rw [Mask.call, Mask.stand, hanswer r rfl]
    | answered visit r => rw [Mask.call, Mask.stand, hanswer r rfl]
  have hcalls : t.calls.map Mask.secret.call = t.calls := by
    rw [List.map_congr_left hcall, List.map_id']
  rw [Mask.traffic, hcalls]

/-- Runs that look the same where the secret is hidden are the same if one of them trusts nobody. -/
theorem eq_of_not_trusts (heq : Mask.secret.traffic t = Mask.secret.traffic t')
    (h : ¬ t.Trusts) : t = t' := by
  have ht : t = Mask.secret.traffic t' := (masked_of_not_trusts h).symm.trans heq
  have h' : ¬ t'.Trusts := fun hx => h (ht ▸ hx.masked)
  rw [ht, masked_of_not_trusts h']

/-! ## What the settings show up in -/

/-- In a run, the signature exists wherever message 1 is answered with an offer. -/
def Signs (settings : Settings) (t : Traffic) (actions : List Action) : Prop :=
  t.RunOffersOnly settings (Offer.Signs settings.longTermKey) actions

/-- What a run shows of the secret and of the long-term key. -/
structure Conceals (settings : Settings) (tape : Tape) (actions : List Action) : Prop where
  /-- With another secret it looks the same but for the ciphertext, its tag and the code of an answer
  that trusts its enclave. -/
  secret : ∀ secret : Bytes, settings.secret.length ≤ Gcm.maxPlaintext →
    secret.length ≤ Gcm.maxPlaintext →
    Alike .secret settings { settings with secret } ((start tape).run settings actions)
      ((start tape).run { settings with secret } actions)
  /-- If it trusts nobody, it is the same with another secret at all of its points. -/
  untrusted : ∀ secret : Bytes, settings.secret.length ≤ Gcm.maxPlaintext →
    secret.length ≤ Gcm.maxPlaintext → ¬ ((start tape).run settings actions).Trusts →
    ∀ before after : List Action, actions = before ++ after →
      (start tape).run settings before = (start tape).run { settings with secret } before
  /-- With another long-term key it looks the same but for the signature and the code of message 2,
  if no signature fails in either run. -/
  longTermKey : ∀ longTermKey : P256.SecretKey, (start tape).Signs settings actions →
    (start tape).Signs { settings with longTermKey } actions →
    Alike .longTermKey settings { settings with longTermKey } ((start tape).run settings actions)
      ((start tape).run { settings with longTermKey } actions)

theorem masked_run_secret (tape : Tape) (actions : List Action) {secret : Bytes}
    (h : settings.secret.length ≤ Gcm.maxPlaintext) (h' : secret.length ≤ Gcm.maxPlaintext) :
    Mask.secret.traffic ((start tape).run settings actions) =
      Mask.secret.traffic ((start tape).run { settings with secret } actions) := by
  have hany : ∀ (x : Settings) (t : Traffic), t.RunOffersOnly x (fun _ _ => True) actions := by
    intro x t before action after _
    cases action with
    | enter i => exact fun _ _ _ _ _ _ _ => trivial
    | pass | openSession | purge | arrive | hear | leave => trivial
  have hcovers : Mask.secret.Covers (fun _ _ => True ∧ True) settings { settings with secret } :=
    Mask.covers_secret settings h h'
  have hcovers' : Mask.secret.Covers (fun _ _ => True ∧ True) { settings with secret }
      { settings with secret } := Mask.covers_secret { settings with secret } h' h'
  exact hcovers.traffic_run hcovers' rfl actions (hany _ _) (hany _ _)

theorem masked_run_longTermKey (tape : Tape) (actions : List Action)
    (hsame : settings' = { settings with longTermKey := settings'.longTermKey })
    (h : (start tape).Signs settings actions) (h' : (start tape).Signs settings' actions) :
    Mask.longTermKey.traffic ((start tape).run settings actions) =
      Mask.longTermKey.traffic ((start tape).run settings' actions) := by
  have hcovers := Mask.covers_longTermKey hsame
    (fun m tape (hf : Offer.Signs settings.longTermKey m tape ∧
      Offer.Signs settings'.longTermKey m tape) => hf.1) (fun m tape hf => hf.2)
  have hcovers' := Mask.covers_longTermKey (rfl : settings' = settings')
    (fun m tape (hf : Offer.Signs settings.longTermKey m tape ∧
      Offer.Signs settings'.longTermKey m tape) => hf.2) (fun m tape hf => hf.2)
  exact hcovers.traffic_run hcovers' rfl actions h h'

/-- In every run, neither the secret nor the long-term key shows up in anything but the parts of
messages 4 and 2 that are made of it. -/
theorem configuration_concealed (settings : Settings) (tape : Tape) (actions : List Action) :
    Conceals settings tape actions := by
  constructor
  case secret =>
    intro secret h h'
    exact .of_masked rfl rfl (masked_run_secret tape actions h h')
  case untrusted =>
    intro secret h h' hnobody before after he
    have hbefore : ¬ ((start tape).run settings before).Trusts := by
      intro ht
      rw [he, run_append] at hnobody
      exact hnobody (ht.run after)
    exact eq_of_not_trusts (masked_run_secret tape before h h') hbefore
  case longTermKey =>
    intro longTermKey h h'
    exact .of_masked rfl rfl (masked_run_longTermKey tape actions rfl h h')

end Traffic

end EnclaveGate
