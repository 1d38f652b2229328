import TrafficMeter.Period.Basic
import TrafficMeter.Store.Basic

set_option autoImplicit false

namespace TrafficMeter

/-- The settings of the service. -/
structure Settings where
  port : Nat
  host : String
  /-- Where the store reads its records. -/
  path : String
  source : AggregateSource
  intervalMilliseconds : Nat
  statisticsSeconds : Nat
  years : YearLimits
deriving DecidableEq, Repr

/-- A setting that makes no sense. -/
inductive SettingsFault
  | portZero
  | pathEmpty
  | intervalZero
  | statisticsZero
  | yearsInverted (years : YearLimits)
deriving DecidableEq, Repr

def SettingsFault.message : SettingsFault → String
  | portZero => "server.port must be between 1 and 65535, got 0"
  | pathEmpty => "provider.path must be non-empty"
  | intervalZero => "refresh.interval_ms must be > 0, got 0"
  | statisticsZero => "refresh.stats_log_interval_secs must be > 0, got 0"
  | yearsInverted years =>
    "period.min_year (" ++ Decimal.signedText years.first ++
      ") must not exceed period.max_year (" ++ Decimal.signedText years.last ++ ")"

namespace Settings

/-- The first setting that makes no sense. -/
def fault? (settings : Settings) : Option SettingsFault :=
  if settings.port = 0 then some .portZero
  else if settings.path = "" then some .pathEmpty
  else if settings.intervalMilliseconds = 0 then some .intervalZero
  else if settings.statisticsSeconds = 0 then some .statisticsZero
  else if settings.years.last < settings.years.first then some (.yearsInverted settings.years)
  else none

end Settings

end TrafficMeter
