import CallContract.Conversion.Scalar
import CallContract.Journal

/-!
# Settings — what the environment decides

Four texts of the environment set the ceiling of resolution, the locale and zone for contexts that carry none, and
whether applied defaults are recorded.  An empty text counts as missing.
-/

namespace CallContract

open CallContract.Calendar CallContract.Number CallContract.Text

structure Settings where
  maxDepthText? : Option String := none
  localeText? : Option String := none
  timeZoneText? : Option String := none
  logDefaultsText? : Option String := none

namespace Settings

def present? (text? : Option String) : Option String := text?.filter (· ≠ "")

-- The ceiling of resolution when none is set.
def standardDepth : Int := 1000

def warning (message : String) : Record := { level := .warning, channel := .settings, message }

/-- The ceiling of resolution; a text that is no positive integer is recorded and passed over. -/
def maxDepth (s : Settings) : Int × Journal :=
  match present? s.maxDepthText? with
  | none => (standardDepth, [])
  | some raw =>
    match Whole.ofText? raw.toList with
    | none =>
      (standardDepth, [warning ("Invalid SERVICE_CONTRACTS_MAX_RESOLVE_DEPTH '" ++ raw ++ "', defaulting to "
        ++ String.ofList (Whole.digitsText standardDepth))])
    | some n =>
      if n < 1 then
        (standardDepth, [warning ("SERVICE_CONTRACTS_MAX_RESOLVE_DEPTH must be positive, got "
          ++ String.ofList (Whole.digitsText n))])
      else (n, [])

def localeName (s : Settings) : String := (present? s.localeText?).getD "en_US"

def timeZoneName? (s : Settings) : Option String := present? s.timeZoneText?

def logsDefaults (s : Settings) : Bool :=
  ["true", "1", "yes", "on"].contains (String.ofList (lower (s.logDefaultsText?.getD "false").toList))

-- The locale for contexts that carry none.
def locale (s : Settings) : Locale := (Locale.ofText? s.localeName).getD .enUS

-- The zone for contexts that carry none: that of the host, unless another one is named.
def timeZone (s : Settings) (world : World) : Zone :=
  (s.timeZoneName?.bind (Conversion.zoneOfName? world)).getD (.host world.clock)

end Settings

end CallContract
