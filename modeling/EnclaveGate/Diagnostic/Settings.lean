import EnclaveGate.Diagnostic.Layout
import EnclaveGate.Settings.Configuration

/-!
# Diagnostics of configurations and settings

Neither shows the secret, a password, or anything about the long-term key but its file.
-/

namespace EnclaveGate

open Diagnostic

/-- The name of an identity policy. -/
def IdentityPolicy.diagnostic : IdentityPolicy → String
  | enclaveOrSigner => "EnclaveOrSigner"
  | enclaveAndSigner => "EnclaveAndSigner"
  | enclaveOnly => "EnclaveOnly"
  | signerOnly => "SignerOnly"

/-- The name of a quote type. -/
def QuoteType.diagnostic : QuoteType → String
  | unlinkable => "Unlinkable"
  | linkable => "Linkable"

/-- The open fields of a configuration. -/
def Configuration.diagnostic (c : Configuration) : String :=
  record "Configuration"
    [("release", flag c.release), ("mrenclaves", path c.mrEnclaves),
      ("mrsigners", optional (c.mrSigners.map path)), ("long_term_key", path c.longTermKey),
      ("prod_id", toString c.prodId), ("prod_svn", toString c.prodSvn),
      ("max_sessions", toString c.maxSessions), ("timeout", toString c.timeout),
      ("identity_policy", c.identityPolicy.diagnostic)] true

/-- All fields of a policy. -/
def QuotePolicy.diagnostic (p : QuotePolicy) : String :=
  record "QuotePolicy"
    [("mr_enclaves", set (p.mrEnclaves.map fun m => byteList m.toList)),
      ("mr_signers", set (p.mrSigners.map fun m => byteList m.toList)),
      ("identity_policy", p.identityPolicy.diagnostic), ("prod_id", toString p.prodId.toNat),
      ("min_isv_svn", toString p.minIsvSvn.toNat),
      ("allowed_advisories",
        table (p.allowedAdvisories.map fun (status, ids) => (text status, set (ids.map text)))),
      ("allow_debug", flag p.allowDebug)] false

/-- The open fields of the settings. -/
def Settings.diagnostic (s : Settings) : String :=
  record "SessionConfig"
    [("quote_type", s.quoteType.diagnostic), ("policy", s.policy.diagnostic),
      ("max_sessions", optional (s.maxSessions.map toString)),
      ("session_timeout", optional (s.sessionTimeout.map duration)),
      ("authority_timeout", duration s.authorityTimeout),
      ("fetch_sig_rl", flag s.fetchSigRl)] true

end EnclaveGate
