import EnclaveGate.Error
import EnclaveGate.Json.Record
import EnclaveGate.Verdict.Basic

/-!
# Verification reports

The authority delivers its verdict as a JSON record with a status, a status of the platform
services, details for the platform, and advisories. Only the first field must be there; in an object
the others may be missing or null, in an array they may be null.
-/

namespace EnclaveGate

/-- A verification report. -/
structure Report where
  /-- The status of the quote. -/
  quoteStatus : String
  /-- The status of the platform services. -/
  pseStatus : Option String
  /-- Details for the platform, as hexadecimal text. -/
  platformInfoBlob : Option String
  /-- Advisories that concern the platform. -/
  advisories : Option (List String)
deriving DecidableEq

namespace Report

/-- The fields of a report. -/
def fields : List Json.Field :=
  [⟨"isvEnclaveQuoteStatus", .text, .required⟩,
    ⟨"pseManifestStatus", .nullable .text, .inLists⟩,
    ⟨"platformInfoBlob", .nullable .text, .inLists⟩,
    ⟨"advisoryIDs", .nullable .texts, .inLists⟩]

/-- The report with the fields that were read. -/
def ofRecord (record : Json.Record) : Report where
  quoteStatus := (record.text? "isvEnclaveQuoteStatus").getD ""
  pseStatus := record.text? "pseManifestStatus"
  platformInfoBlob := record.text? "platformInfoBlob"
  advisories := record.texts? "advisoryIDs"

/-- The report with the given text. -/
def parse (body : Bytes) : Except Json.Fault Report :=
  (Json.readRecord "struct IasReport" fields body).map ofRecord

/-- The verdict with the given details. -/
def verdictWith (report : Report) (platformInfoBlob : Option Bytes) : QuoteVerdict :=
  let status := QuoteStatus.ofText report.quoteStatus
  { status
    enclaveTrusted := status == .ok
    pseTrusted := report.pseStatus == some "OK"
    advisories := report.advisories.getD []
    platformInfoBlob }

/-- The verdict of a report, unless its details are no hexadecimal text. -/
def verdict (report : Report) : Except Error QuoteVerdict :=
  match report.platformInfoBlob with
  | none => .ok (report.verdictWith none)
  | some blob =>
    match Hex.decode (Text.utf8 blob.toList) with
    | .ok bytes => .ok (report.verdictWith (some bytes))
    | .error _ => .error (.authority "malformed platform info blob")

end Report

/-- The verdict in the text of a report. -/
def QuoteVerdict.ofReport (body : Bytes) : Except Error QuoteVerdict :=
  match Report.parse body with
  | .ok report => report.verdict
  | .error fault => .error (.authority s!"malformed verification report: {fault.message}")

end EnclaveGate
