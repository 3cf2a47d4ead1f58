import RequestBinding.Limits
import RequestBinding.Settings.Log

/-! The settings of a service. -/

namespace RequestBinding

structure Settings where
  limits : Limits
  log : LogSettings
deriving DecidableEq, Repr

structure SettingFault where
  field : String
  reason : String
deriving DecidableEq, Repr

namespace Settings

def standard : Settings := ⟨.standard, .standard⟩

def development : Settings := ⟨.development, .development⟩

def production : Settings := ⟨.production, .production⟩

def document {σ : Type} : Json.Record σ Settings :=
  .mk "Settings" true
    (.withDefault "binder" (.record Limits.document) standard.limits
      (.withDefault "logging" (.record LogSettings.document) standard.log .nil))
    fun (limits, log, ()) => ⟨limits, log⟩

def toJson (s : Settings) : Json := .object [("binder", s.limits.toJson), ("logging", s.log.toJson)]

/-- The first setting whose value cannot be used: a limit that cannot be, or a filter of the log without a
character that shows. -/
def fault? (s : Settings) : Option SettingFault :=
  match s.limits.fault? with
  | some f => some ⟨"binder." ++ f.field, f.reason⟩
  | none =>
    if Text.trim s.log.level.toList = [] then some ⟨"logging.level", "must not be empty"⟩ else none

end Settings
end RequestBinding
