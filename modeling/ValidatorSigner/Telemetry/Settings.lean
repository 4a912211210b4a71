/-! # Settings of telemetry

No value of these settings is refused here.
-/
namespace ValidatorSigner

structure Environment where
  lookup : String → Option String

def lowerCase (text : String) : String := String.ofList (text.toList.map Char.toLower)

namespace Telemetry

structure TelemetrySettings where
  serviceName : String := "remote-signer"
  logLevel : String := "info"
  jsonLogs : Bool := false
deriving DecidableEq, Repr

def TelemetrySettings.read (environment : Environment) : TelemetrySettings :=
  { serviceName := (environment.lookup "SIGNER_SERVICE_NAME").getD "remote-signer"
    logLevel := ((environment.lookup "SIGNER_LOG_LEVEL").or (environment.lookup "RUST_LOG")).getD "info"
    -- Logs are written as JSON only if that is asked for in so many words.
    jsonLogs := match environment.lookup "SIGNER_JSON_LOGS" with
      | some text => lowerCase text = "true" || text = "1"
      | none => false }

end Telemetry
end ValidatorSigner
