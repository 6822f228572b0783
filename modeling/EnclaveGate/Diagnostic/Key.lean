import EnclaveGate.Diagnostic.Layout
import EnclaveGate.KeyTree
import EnclaveGate.Wire.Key

/-!
# Diagnostics of keys

Public keys and signatures are shown by their bytes; a derived key shows nothing of itself.
-/

namespace EnclaveGate

/-- A public key by its bytes. -/
def WireKey.diagnostic (key : WireKey) : String :=
  Diagnostic.wrapped "WirePublicKey" (Hex.text key.toBytes)

/-- A signature by its bytes. -/
def WireSignature.diagnostic (signature : WireSignature) : String :=
  Diagnostic.wrapped "WireSignature" (Hex.text signature.toBytes)

/-- A derived key, whatever it is. -/
def DerivedKey.diagnostic (_ : DerivedKey) : String := Diagnostic.wrapped "DerivedKey" ".."

end EnclaveGate
