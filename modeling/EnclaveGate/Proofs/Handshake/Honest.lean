import EnclaveGate.Proofs.Handshake.Enclave
import EnclaveGate.Proofs.Traffic.Serving

/-!
# Honest handshakes complete

An enclave opens a session, sends its key, checks the answer, and sends its evidence. Whatever
happens on the server before, between and during its requests, if nobody disturbs its session, the
answer passes the checks of the enclave, and the secret reaches it.
-/

namespace EnclaveGate

namespace Traffic

variable {settings : Settings} {t : Traffic}

/-- A call is over with a result. -/
def AnsweredWith (t : Traffic) (i : Nat) (request : Request) (r : Except Error request.Answer) :
    Prop :=
  ∃ stand : Stand request, t.calls[i]? = some ⟨request, stand⟩ ∧ stand.result? = some r

/-- Nothing prevents an answer to message 1. -/
structure Answerable (settings : Settings) (tape : Tape) (authority : Authority) (msg1 : Msg1) :
    Prop where
  /-- An ephemeral key can be drawn, and the signature of both public keys exists. -/
  signs : ∃ ephemeral rest, P256.SecretKey.draw? tape = some (ephemeral, rest) ∧
    ∀ gb, WireKey.ofSecret ephemeral = .ok gb →
      (Ecdsa.sign? settings.longTermKey (KeyExchange.transcript gb msg1.ga)).isSome = true
  /-- Where it is wanted, the revocation list comes in time. -/
  listed : settings.fetchSigRl = true →
    ∃ sigRl, (authority.revocationList msg1.groupId).within settings.authorityTimeout = .ok sigRl

/-- Nothing prevents the release of the secret for a quote with a body. -/
structure Releasable (settings : Settings) (tape : Tape) (authority : Authority) (body : QuoteBody)
    (quote : Bytes) : Prop where
  /-- The verdict comes in time, and the policy accepts it. -/
  accepted : ∃ verdict, (authority.verdict quote).within settings.authorityTimeout = .ok verdict ∧
    settings.policy.evaluate body verdict = .ok ()
  /-- A vector can be drawn. -/
  random : 12 ≤ tape.size
  /-- The secret is short enough to be encrypted. -/
  fits : settings.secret.length ≤ Gcm.maxPlaintext

/-! ## The two requests -/

/-- A session is opened behind all others. -/
theorem sessions_opened {challenge : Challenge}
    (h : (t.server.openSession settings).1 = .ok challenge) :
    (t.step settings .openSession).sessions[t.sessions.length]? =
      some (Session.start challenge.sessionId) := by
  rcases t.server.openSession_cases settings with ⟨e, he, -⟩ | ⟨challenge', hc, hs⟩
  · rw [he] at h
    cases h
  · rw [hc] at h
    cases h
    have hs' : (t.step settings .openSession).sessions =
        t.sessions ++ [Session.start challenge.sessionId] := hs
    rw [hs']
    exact List.getElem?_concat_length

variable {course : Course} {k : Ticket}

/-- A message 1 that nothing prevents is answered with an offer, and its session waits for
message 3. -/
theorem answers_msg1 {id : SessionId} {msg1 : Msg1} {peer : P256.PublicKey} (h : Coherent settings t)
    (hu : Unambiguous t) (hk : t.sessions[k]? = some (Session.start id))
    (hd : Undisturbed settings t (.msg1 msg1) course k) (hpeer : msg1.ga.decode = .ok peer)
    (ha : Answerable settings (t.entry settings (.msg1 msg1) course).server.tape course.authority
      msg1) :
    ∃ (ephemeral : P256.SecretKey) (key : P256.PublicKey) (signature : Ecdsa.Signature)
        (sigRl : Bytes),
      ephemeral.publicKey? = some key ∧
      Ecdsa.sign? settings.longTermKey (KeyExchange.transcript key.wire msg1.ga) =
        some signature ∧
      (t.serve settings (.msg1 msg1) course).AnsweredWith (t.callOf settings course) (.msg1 msg1)
        (.ok { (Offer.between settings msg1 (ephemeral.sharedCoordinate peer) key.wire
          signature.wire).msg2 with sigRl }) ∧
      (t.serve settings (.msg1 msg1) course).sessions[k]? = some ⟨id, .awaitingMsg3
        (Offer.between settings msg1 (ephemeral.sharedCoordinate peer) key.wire
          signature.wire).handshake⟩ := by
  obtain ⟨⟨ephemeral, rest, hdraw, hsign⟩, hlist⟩ := ha
  obtain ⟨key, hkey⟩ := ephemeral.exists_publicKey
  obtain ⟨signature, hs⟩ := Option.isSome_iff_exists.mp (hsign _ (WireKey.ofSecret_eq hkey))
  generalize ho : Offer.between settings msg1 (ephemeral.sharedCoordinate peer) key.wire
    signature.wire = offer
  have hgroup : offer.handshake.groupId = msg1.groupId := by
    rw [← ho]
    rfl
  have hmake : Offer.make settings msg1 (t.entry settings (.msg1 msg1) course).server.tape =
      (.ok offer, rest) := by
    rw [Offer.make_eq hpeer hdraw, Offer.withEphemeral_eq hkey hs, ho]
  obtain ⟨v, outcome, hcall, hsession, hout⟩ := hd.served h hu hk
  have hphase : (Session.start id).phase = .awaitingMsg1 := rfl
  have hbegin := Session.beginMsg1_of_awaiting settings
    (t.entry settings (.msg1 msg1) course).server.tape hphase msg1
  rw [hmake] at hbegin
  -- which list is sent depends on the authority, but the handshake does not depend on the list
  have haccept : ∃ sigRl, outcome = (Session.start id).accept offer sigRl := by
    cases hfetch : settings.fetchSigRl with
    | false =>
      simp only [hfetch, Bool.false_eq_true, if_false] at hbegin
      rcases hout with hb | ⟨pending, hb, -⟩
      · simp only [Session.begin, hbegin, Stage.finished.injEq] at hb
        exact ⟨[], hb.symm⟩
      · simp [Session.begin, hbegin] at hb
    | true =>
      obtain ⟨sigRl, hr⟩ := hlist hfetch
      simp only [hfetch, if_true] at hbegin
      rcases hout with hb | ⟨pending, hb, hf⟩
      · simp [Session.begin, hbegin] at hb
      · simp only [Session.begin, hbegin, Stage.asking.injEq] at hb
        subst hb
        simp only [Session.finish, hgroup, hr, Session.finishMsg1] at hf
        exact ⟨sigRl, hf.symm⟩
  obtain ⟨sigRl, rfl⟩ := haccept
  exact ⟨ephemeral, key, signature, sigRl, hkey, hs, ho ▸ ⟨_, hcall, result?_concluded v _⟩,
    ho ▸ hsession⟩

/-- A message 3 with evidence that belongs to the handshake brings the secret, and its session is
established. -/
theorem answers_msg3 {id : SessionId} {msg3 : Msg3} {handshake : Handshake} {body : QuoteBody}
    (h : Coherent settings t) (hu : Unambiguous t)
    (hk : t.sessions[k]? = some ⟨id, .awaitingMsg3 handshake⟩)
    (hd : Undisturbed settings t (.msg3 msg3) course k) (hm : handshake.Matches msg3 body)
    (hr : Releasable settings (t.reply settings (.msg3 msg3) course).server.tape course.authority
      body msg3.quote) :
    (t.serve settings (.msg3 msg3) course).sessions[k]? = some ⟨id, .established⟩ ∧
    ∃ msg4, (t.serve settings (.msg3 msg3) course).AnsweredWith (t.callOf settings course)
        (.msg3 msg3) (.ok msg4) ∧
      msg4.Brings settings.secret msg3 handshake.gb handshake.kdk := by
  obtain ⟨⟨verdict, hverdict, htrusted⟩, hrandom, hfits⟩ := hr
  obtain ⟨v, outcome, hcall, hsession, hout⟩ := hd.served h hu hk
  have hphase : (Session.mk id (.awaitingMsg3 handshake)).phase = .awaitingMsg3 handshake := rfl
  have hbegin := Session.beginMsg3_of_awaiting hphase msg3
  rw [Handshake.check_ok_iff.mpr hm] at hbegin
  rcases hout with hb | ⟨pending, hb, hf⟩
  · simp [Session.begin, hbegin] at hb
  · simp only [Session.begin, hbegin, Stage.asking.injEq] at hb
    subst hb
    simp only [Session.finish, hverdict] at hf
    obtain ⟨hs, msg4, hres, hbrings⟩ := Session.finishMsg3_brings
      ⟨id, .awaitingMsg3 handshake⟩ ⟨handshake, msg3, body⟩ htrusted hrandom hfits hm.sameKey
    rw [hf] at hs hres
    refine ⟨by rw [hsession, hs]; rfl, msg4, ⟨_, hcall, ?_⟩, hbrings⟩
    rw [result?_concluded, hres]

/-! ## The whole handshake -/

/-- An enclave that opens a session and is not disturbed receives an answer to message 1 that passes
its checks, and an answer to message 3 that brings it the secret. -/
theorem honest_handshake_completes (settings : Settings) (enclave : Enclave) :
    ∃ ga longTerm, WireKey.ofSecret enclave.ephemeral = .ok ga ∧
      settings.longTermKey.publicKey? = some longTerm ∧
      ∀ (tape : Tape) (actions : List Action) (challenge : Challenge) (first : Course),
        let before := (start tape).run settings actions
        let k := before.sessions.length
        let opened := before.step settings .openSession
        let msg1 := enclave.msg1 challenge.sessionId ga
        let agreed := opened.serve settings (.msg1 msg1) first
        (before.server.openSession settings).1 = .ok challenge →
        Undisturbed settings opened (.msg1 msg1) first k →
        Answerable settings (opened.entry settings (.msg1 msg1) first).server.tape first.authority
          msg1 →
        ∃ msg2 kdk,
          agreed.AnsweredWith (opened.callOf settings first) (.msg1 msg1) (.ok msg2) ∧
          enclave.root msg2.gb = .ok kdk ∧ msg2.Genuine longTerm ga kdk ∧
          ∀ second : Course,
            let body := enclave.quoteBody ga msg2.gb kdk
            let msg3 := enclave.msg3 challenge.sessionId ga msg2.gb kdk
            let final := agreed.serve settings (.msg3 msg3) second
            Undisturbed settings agreed (.msg3 msg3) second k →
            Releasable settings (agreed.reply settings (.msg3 msg3) second).server.tape
              second.authority body body.unsignedQuote →
            final.sessions[k]? = some ⟨challenge.sessionId, .established⟩ ∧
            ∃ msg4,
              final.AnsweredWith (agreed.callOf settings second) (.msg3 msg3) (.ok msg4) ∧
              msg4.Brings settings.secret msg3 msg2.gb kdk := by
  obtain ⟨peer, hpeer⟩ := enclave.ephemeral.exists_publicKey
  obtain ⟨longTerm, hlong⟩ := settings.longTermKey.exists_publicKey
  refine ⟨peer.wire, longTerm, WireKey.ofSecret_eq hpeer, hlong, ?_⟩
  intro tape actions challenge first before k opened msg1 agreed hopen hd₁ ha
  have hc : Coherent settings opened :=
    (coherent_run settings tape actions).effect (before.step_effect settings .openSession)
  have hu : Unambiguous opened := (unambiguous_run settings tape actions).step .openSession
  obtain ⟨ephemeral, key, signature, sigRl, hkey, hsign, hans, hsession⟩ :=
    answers_msg1 hc hu (sessions_opened hopen) hd₁ (WireKey.decode_wire peer) ha
  generalize ho : Offer.between settings msg1 (ephemeral.sharedCoordinate peer) key.wire
    signature.wire = offer at hans hsession
  have hgb : offer.msg2.gb = key.wire := by
    rw [← ho]
    rfl
  have hkdk : offer.handshake.kdk = KeyExchange.rootOf (ephemeral.sharedCoordinate peer) := by
    rw [← ho]
    rfl
  refine ⟨{ offer.msg2 with sigRl }, offer.handshake.kdk, hans, ?_, ?_, ?_⟩
  · rw [hkdk, ← Enclave.root_eq hpeer hkey, hgb]
  · rw [hkdk, ← ho]
    exact Enclave.genuine hlong hsign sigRl
  · intro second body msg3 final hd₃ hr
    have hm : offer.handshake.Matches msg3 body := by
      have hga : offer.handshake.ga = peer.wire := by
        rw [← ho]
        rfl
      have hgb' : offer.handshake.gb = offer.msg2.gb := by
        rw [← ho]
        rfl
      have hmatches := Enclave.matches_msg3 enclave challenge.sessionId
        (h := offer.handshake) (by rw [← ho]; rfl) (by rw [← ho]; rfl)
      rw [hga, hgb'] at hmatches
      exact hmatches
    obtain ⟨hest, msg4, hans₃, hbrings⟩ :=
      answers_msg3 (hc.serve _ first) (hu.serve _ first) hsession hd₃ hm hr
    have hgb' : offer.handshake.gb = offer.msg2.gb := by
      rw [← ho]
      rfl
    rw [hgb'] at hbrings
    exact ⟨hest, msg4, hans₃, hbrings⟩

/-! ## The smallest handshake -/

/-- Settings that list the enclave with the measurement zero. -/
def trusting : Settings :=
  (Settings.make (Block.zero 16) .one [42]).withMrEnclave (Block.zero 32)

/-- An authority that finds nothing wrong and takes no time. -/
def prompt : Authority := ⟨fun _ => ⟨0, .ok .trusted⟩, fun _ => ⟨0, .ok []⟩⟩

end Traffic

/-- The enclave with the ephemeral key one and zeros in all other fields. -/
def Enclave.smallest : Enclave :=
  ⟨.one, Block.zero 4, 0, Block.zero 32, Block.zero 32, 0, 0, Block.zero 32, Block.zero 256⟩

namespace Traffic

/-- The quotes of the smallest enclave are accepted with a verdict that finds nothing wrong. -/
theorem evaluate_smallest (ga gb : WireKey) (kdk : DerivedKey) :
    trusting.policy.evaluate (Enclave.smallest.quoteBody ga gb kdk) .trusted = .ok () := by
  have hpolicy : trusting.policy = { QuotePolicy.empty with mrEnclaves := [Block.zero 32] } := by
    decide
  rw [hpolicy]
  simp [QuotePolicy.evaluate, QuotePolicy.checkQuote, QuotePolicy.checkVerdict,
    QuotePolicy.acceptsIdentity, IdentityPolicy.accepts, QuotePolicy.empty, Enclave.quoteBody,
    Enclave.smallest, QuoteBody.isDebug, QuoteVerdict.trusted]

/-- The session of the smallest handshake is open. -/
def smallestOpened : Traffic := (start .one).step trusting .openSession

theorem smallestOpened_eq : smallestOpened =
    ⟨⟨⟨[⟨.start 1, 0, true⟩]⟩, .opened, 0, [.created 1]⟩, []⟩ := by
  have hopen : ((Server.start .one).openSession trusting).2 =
      ⟨⟨[⟨.start 1, 0, true⟩]⟩, .opened, 0, [.created 1]⟩ := by
    decide +kernel
  exact congrArg (fun server => (⟨server, []⟩ : Traffic)) hopen

theorem length_calls_smallestOpened : smallestOpened.calls.length = 0 := by
  rw [smallestOpened_eq]
  rfl

theorem coherent_smallestOpened : Coherent trusting smallestOpened :=
  coherent_run trusting .one [.openSession]

theorem unambiguous_smallestOpened : Unambiguous smallestOpened :=
  unambiguous_run trusting .one [.openSession]

theorem sessions_smallestOpened : smallestOpened.sessions[0]? = some (.start 1) := by
  rw [smallestOpened_eq]
  rfl

/-- Without a limit no session is idle for too long. -/
theorem not_expired_trusting (t : Traffic) (k : Ticket) : ¬ t.Expired trusting k := by
  rintro ⟨e, -, hx⟩
  cases hx

theorem undisturbed_smallest :
    Undisturbed trusting smallestOpened (.msg1 .one) (.alone prompt) 0 := by
  refine .of_alone ?_ (not_expired_trusting _ 0) ?_
  · rw [smallestOpened_eq]
    exact ⟨_, rfl, rfl, rfl⟩
  · rw [smallestOpened_eq]
    simp

theorem draw_smallest :
    P256.SecretKey.draw? smallestOpened.server.tape = some (.one, .drawn) := by
  rw [smallestOpened_eq]
  exact Tape.draw?_opened

theorem answerable_smallest :
    Answerable trusting (smallestOpened.entry trusting (.msg1 .one) (.alone prompt)).server.tape
      prompt .one := by
  have htape : (smallestOpened.entry trusting (.msg1 .one) (.alone prompt)).server.tape =
      smallestOpened.server.tape := tape_entry_alone (.msg1 .one) prompt
  constructor
  · rw [htape]
    refine ⟨_, _, draw_smallest, fun gb hgb => ?_⟩
    rw [WireKey.ofSecret_eq P256.SecretKey.publicKey?_one] at hgb
    obtain rfl : P256.PublicKey.base.wire = gb := Except.ok.inj hgb
    exact sign_one_isSome
  · intro h
    cases h

/-- Message 1 of the smallest handshake is answered. -/
def smallestAgreed : Traffic := smallestOpened.serve trusting (.msg1 .one) (.alone prompt)

theorem coherent_smallestAgreed : Coherent trusting smallestAgreed :=
  coherent_smallestOpened.serve _ _

theorem unambiguous_smallestAgreed : Unambiguous smallestAgreed :=
  unambiguous_smallestOpened.serve _ _

theorem length_calls_smallestAgreed : smallestAgreed.calls.length = 1 := by
  rw [smallestAgreed, length_calls_serve_alone, length_calls_smallestOpened]

theorem lists_smallestAgreed : smallestAgreed.Lists 0 1 :=
  lists_serve_alone unambiguous_smallestOpened undisturbed_smallest.listed
    (not_expired_trusting _ 0) _ _

/-- The answer to message 1 of the smallest handshake draws the ephemeral key and nothing else. -/
theorem tape_smallestAgreed : smallestAgreed.server.tape = .drawn := by
  rw [smallestAgreed, undisturbed_smallest.tape_serve_msg1 coherent_smallestOpened
    unambiguous_smallestOpened sessions_smallestOpened]
  exact Session.tape_beginMsg1 rfl (WireKey.decode_wire .base) draw_smallest

/-- The enclave with the ephemeral key one receives the secret. -/
theorem smallest_handshake_completes :
    ∃ msg2 kdk msg4,
      let agreed := smallestOpened.serve trusting (.msg1 .one) (.alone prompt)
      let msg3 := Enclave.smallest.msg3 1 P256.PublicKey.base.wire msg2.gb kdk
      agreed.AnsweredWith 0 (.msg1 .one) (.ok msg2) ∧
      (agreed.serve trusting (.msg3 msg3) (.alone prompt)).AnsweredWith 1 (.msg3 msg3)
        (.ok msg4) ∧
      msg4.Brings [42] msg3 msg2.gb kdk := by
  obtain ⟨ga, longTerm, hga, -, h⟩ := honest_handshake_completes trusting .smallest
  rw [show WireKey.ofSecret Enclave.smallest.ephemeral = .ok P256.PublicKey.base.wire from
    WireKey.ofSecret_eq P256.SecretKey.publicKey?_one] at hga
  obtain rfl : P256.PublicKey.base.wire = ga := Except.ok.inj hga
  have hopen : ((start .one).server.openSession trusting).1 = .ok ⟨1, Block.zero 32⟩ := by
    decide +kernel
  obtain ⟨msg2, kdk, hans, -, -, h⟩ := h .one [] ⟨1, Block.zero 32⟩ (.alone prompt) hopen
    undisturbed_smallest answerable_smallest
  have hcalls : smallestOpened.callOf trusting (.alone prompt) = 0 := by
    rw [callOf_alone, length_calls_smallestOpened]
  let msg3 := Enclave.smallest.msg3 1 P256.PublicKey.base.wire msg2.gb kdk
  have hans₁ : smallestAgreed.AnsweredWith (smallestOpened.callOf trusting (.alone prompt))
      (.msg1 .one) (.ok msg2) := hans
  rw [hcalls] at hans₁
  have hundisturbed : Undisturbed trusting smallestAgreed (.msg3 msg3) (.alone prompt) 0 := by
    refine .of_alone lists_smallestAgreed (not_expired_trusting _ 0) fun n c hn => ?_
    have hlt := (List.getElem?_eq_some_iff.mp hn).1
    rw [length_calls_smallestAgreed] at hlt
    obtain rfl : n = 0 := by omega
    obtain ⟨stand, hc, hr⟩ := hans₁
    have hsame : some c = some ⟨.msg1 .one, stand⟩ := hn.symm.trans hc
    cases hsame
    simp [hr]
  have hreleasable : Releasable trusting
      (smallestAgreed.reply trusting (.msg3 msg3) (.alone prompt)).server.tape prompt
      (Enclave.smallest.quoteBody P256.PublicKey.base.wire msg2.gb kdk)
      (Enclave.smallest.quoteBody P256.PublicKey.base.wire msg2.gb kdk).unsignedQuote := by
    obtain ⟨v, outcome, -, hsession, -⟩ := undisturbed_smallest.served coherent_smallestOpened
      unambiguous_smallestOpened sessions_smallestOpened
    constructor
    · exact ⟨.trusted, rfl, evaluate_smallest _ _ kdk⟩
    · rw [hundisturbed.tape_reply coherent_smallestAgreed unambiguous_smallestAgreed hsession,
        Session.tape_begin_msg3, tape_smallestAgreed]
      decide
    · decide
  obtain ⟨-, msg4, hans, hbrings⟩ := h (.alone prompt) hundisturbed hreleasable
  have hans₃ : (smallestAgreed.serve trusting (.msg3 msg3) (.alone prompt)).AnsweredWith
      (smallestAgreed.callOf trusting (.alone prompt)) (.msg3 msg3) (.ok msg4) := hans
  rw [callOf_alone, length_calls_smallestAgreed] at hans₃
  exact ⟨msg2, kdk, msg4, hans₁, hans₃, hbrings⟩

end Traffic

end EnclaveGate
