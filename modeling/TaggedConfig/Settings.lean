import TaggedConfig.Json.Record

/-! Typed settings: those of a service, and those of a deployment with its servers.
Their texts list the fields in order.
-/

namespace TaggedConfig

open Json (Datum IntegerType Shape)

/-- Integers of 16 bits without sign. -/
def unsigned16 : IntegerType := ⟨"u16", 0, 65535⟩

/-- Integers of 32 bits without sign. -/
def unsigned32 : IntegerType := ⟨"u32", 0, 4294967295⟩

/-- Integers of 64 bits with sign. -/
def signed64 : IntegerType := ⟨"i64", -9223372036854775808, 9223372036854775807⟩

/-- The settings of a service. -/
structure Settings where
  name : String
  port : Nat
  deriving DecidableEq, Repr

namespace Settings

/-- The shape of the settings of a service. -/
def shape : Shape :=
  .record "Settings" [("name", .text, none), ("port", .integer unsigned16, none)]

/-- The settings that a value of that shape holds. -/
def ofDatum? : Datum → Option Settings
  | .record [(_, .text name), (_, .integer port)] => some ⟨name, port.toNat⟩
  | _ => none

/-- The settings as a value of their shape. -/
def datum (settings : Settings) : Datum :=
  .record [("name", .text settings.name), ("port", .integer settings.port)]

/-- Refuses a port of zero, and a port of the system to anyone but the administrator. -/
def validate (settings : Settings) : Except String Unit :=
  if settings.port = 0 then throw "port must not be zero"
  else if settings.port < 1024 ∧ settings.name ≠ "root" then
    throw s!"{settings.name} may not use port {settings.port}"
  else pure ()

end Settings

/-- The shape of the settings of a deployment. -/
def deploymentShape : Shape :=
  .record "TestSettings" [
    ("name", .text, none),
    ("integerValue", .integer signed64, none),
    ("floatValue", .double, none),
    ("server", .record "TestSettingsServer" [
      ("ip", .text, none),
      ("port", .integer unsigned16, none),
      ("poolSize", .integer unsigned32, some (.integer 0)),
      ("allowedAddresses", .texts, some (.texts []))], none),
    ("node", .record "TestSettingsNode" [
      ("url", .text, none),
      ("apiToken", .text, none)], none),
    ("mongodb", .record "TestSettingsMongoDb" [("url", .text, none)], none)]

/-- Decodes a text by a shape, with the wording of a fault. -/
def decodeShape (shape : Shape) (text : Bytes) : Except String Datum :=
  (Json.decodeAs shape text).mapError (·.message text)

def Settings.decode (text : Bytes) : Except String Settings := do
  match Settings.ofDatum? (← decodeShape Settings.shape text) with
  | some settings => pure settings
  | none => throw "settings of another shape"

end TaggedConfig
