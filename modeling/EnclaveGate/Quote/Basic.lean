import EnclaveGate.Message.Basic

/-!
# Quotes

A quote is a body of 432 bytes, a signature length in four bytes, and the signature. The server
reads seven fields of the body and leaves the signature to the attestation authority. The first half
of the report data binds the quote to one key exchange.
-/

namespace EnclaveGate

/-- The fields of a quote that the server reads. -/
structure QuoteBody where
  /-- The group of the platform. -/
  groupId : GroupId
  /-- The attribute flags of the enclave. -/
  attributeFlags : UInt64
  /-- The measurement of the enclave's code. -/
  mrEnclave : Measurement
  /-- The measurement of the enclave's signer. -/
  mrSigner : Measurement
  /-- The product number of the enclave. -/
  isvProdId : UInt16
  /-- The security version of the enclave. -/
  isvSvn : UInt16
  /-- Data that the enclave put into its report. -/
  reportData : Block 64
deriving DecidableEq

namespace QuoteBody

/-- The least size of a quote: the body and the signature length. -/
def minSize : Nat := 436

/-- The number with the `n` bytes that start at `offset`, least significant byte first. -/
def numberAt (quote : Bytes) (offset n : Nat) : Nat := Bytes.natLE ((quote.drop offset).take n)

/-- The fields of a quote whose signature has the declared length. -/
def parse (quote : Bytes) : Except Error QuoteBody :=
  if h : minSize ≤ quote.length then
    let declared := numberAt quote 432 4
    if quote.length - minSize = declared then
      .ok
        { groupId := quote.slice 4 4 (by simp only [minSize] at h; omega)
          attributeFlags := UInt64.ofNat (numberAt quote 96 8)
          mrEnclave := quote.slice 112 32 (by simp only [minSize] at h; omega)
          mrSigner := quote.slice 176 32 (by simp only [minSize] at h; omega)
          isvProdId := UInt16.ofNat (numberAt quote 304 2)
          isvSvn := UInt16.ofNat (numberAt quote 306 2)
          reportData := quote.slice 368 64 (by simp only [minSize] at h; omega) }
    else .error (.invalidFormat (.signatureLength declared (quote.length - minSize)))
  else .error (.invalidFormat (.quoteSize quote.length))

/-- The first 432 bytes of a version 2 quote with the given fields and zero bytes elsewhere. -/
def toBytes (body : QuoteBody) : Bytes :=
  [2, 0, 0, 0] ++ body.groupId.toList ++ List.replicate 88 0 ++
    Bytes.leBytes 8 body.attributeFlags.toNat ++ List.replicate 8 0 ++ body.mrEnclave.toList ++
    List.replicate 32 0 ++ body.mrSigner.toList ++ List.replicate 96 0 ++
    Bytes.leBytes 2 body.isvProdId.toNat ++ Bytes.leBytes 2 body.isvSvn.toNat ++
    List.replicate 60 0 ++ body.reportData.toList

/-- A quote with the given fields and signature. -/
def quoteWith (body : QuoteBody) (signature : Bytes) : Bytes :=
  body.toBytes ++ Bytes.leBytes 4 signature.length ++ signature

/-- A quote with the given fields and an empty signature. -/
def unsignedQuote (body : QuoteBody) : Bytes := body.quoteWith []

/-- Whether the enclave was launched for debugging. -/
def isDebug (body : QuoteBody) : Bool := body.attributeFlags &&& 2 != 0

end QuoteBody

end EnclaveGate
