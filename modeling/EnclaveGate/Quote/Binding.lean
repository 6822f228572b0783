import EnclaveGate.Bytes.Compare
import EnclaveGate.Crypto.Sha256
import EnclaveGate.KeyTree
import EnclaveGate.Quote.Basic

/-!
# Binding a quote to a key exchange

The enclave puts the digest of both public keys and the verification key into the first half of its
report data, so that the quote is worth nothing in another key exchange.
-/

namespace EnclaveGate

/-- The string whose digest binds a quote to a key exchange. -/
def bindingInput (ga gb : WireKey) (vk : DerivedKey) : Bytes :=
  ga.toBytes ++ gb.toBytes ++ vk.bytes.toList

/-- The digest that binds a quote to a key exchange. -/
def keyExchangeBinding (ga gb : WireKey) (vk : DerivedKey) : Block 32 :=
  Sha256.digest (bindingInput ga gb vk)

/-- Whether the first half of the report data is the given binding. -/
def QuoteBody.isBoundTo (body : QuoteBody) (binding : Block 32) : Bool :=
  Bytes.constantTimeEq (body.reportData.toList.take 32) binding.toList

end EnclaveGate
