import TrafficMeter.Calendar.Date
import TrafficMeter.Calendar.Month
import TrafficMeter.Calendar.Text
import TrafficMeter.Chart.Basic
import TrafficMeter.Chart.Menu
import TrafficMeter.Chart.Series
import TrafficMeter.Chart.Span
import TrafficMeter.Display.Codec
import TrafficMeter.Display.Frame
import TrafficMeter.Display.History
import TrafficMeter.Display.Hold
import TrafficMeter.Display.Summary
import TrafficMeter.Display.Viewer
import TrafficMeter.Json.Basic
import TrafficMeter.Json.Decode
import TrafficMeter.Json.Document
import TrafficMeter.Json.Parser
import TrafficMeter.Json.Printer
import TrafficMeter.Json.Token
import TrafficMeter.Number.BinaryFraction
import TrafficMeter.Number.Decimal
import TrafficMeter.Number.DecimalReal
import TrafficMeter.Period.Basic
import TrafficMeter.Period.Parser
import TrafficMeter.Period.Range
import TrafficMeter.Service.App
import TrafficMeter.Service.Command
import TrafficMeter.Service.Live
import TrafficMeter.Service.Poller
import TrafficMeter.Service.Query
import TrafficMeter.Service.Request
import TrafficMeter.Settings.Basic
import TrafficMeter.Settings.Loader
import TrafficMeter.Size.Basic
import TrafficMeter.Size.Text
import TrafficMeter.Size.Unit
import TrafficMeter.Snapshot.Basic
import TrafficMeter.Snapshot.Batch
import TrafficMeter.Snapshot.Clock
import TrafficMeter.Snapshot.Codec
import TrafficMeter.Snapshot.Merge
import TrafficMeter.Store.Basic
import TrafficMeter.Text.Blank
import TrafficMeter.Text.GraphemeExtend
import TrafficMeter.Text.Quoted
import TrafficMeter.Text.Unprintable
import TrafficMeter.Text.Utf8
import TrafficMeter.Toml.Basic
import TrafficMeter.Toml.Parser
import TrafficMeter.Toml.Scalar
import TrafficMeter.Proofs.Calendar.Days
import TrafficMeter.Proofs.Number.Extremes
import TrafficMeter.Proofs.Size.Slots
import TrafficMeter.Proofs.Snapshot.Recorded
import TrafficMeter.Proofs.Snapshot.AlignedDays
import TrafficMeter.Proofs.Snapshot.MergedDays
import TrafficMeter.Proofs.Snapshot.MergedTrust
import TrafficMeter.Proofs.Chart.Span
import TrafficMeter.Proofs.Chart.MonthDays
import TrafficMeter.Proofs.Chart.YearMonths
import TrafficMeter.Proofs.Display.Actions
import TrafficMeter.Proofs.Display.PinnedPeriod
import TrafficMeter.Proofs.Display.HoldRuns
import TrafficMeter.Proofs.Display.LiveView
import TrafficMeter.Proofs.Size.Removal
import TrafficMeter.Proofs.Store.StoredAggregate
import TrafficMeter.Proofs.Json.Written
import TrafficMeter.Proofs.Json.RoundTrip
import TrafficMeter.Proofs.Json.Record
import TrafficMeter.Proofs.Snapshot.Wire
import TrafficMeter.Proofs.Snapshot.CustomCounter
import TrafficMeter.Proofs.Store.ResetRecords
import TrafficMeter.Proofs.Store.Reset
import TrafficMeter.Proofs.Chart.PeriodDays
import TrafficMeter.Proofs.Display.HeldIntervals
import TrafficMeter.Proofs.Chart.MergedMonths
import TrafficMeter.Proofs.Chart.Totals
import TrafficMeter.Proofs.Size.Estimate
import TrafficMeter.Proofs.Store.ResetRuns
import TrafficMeter.Proofs.Snapshot.MergeOrder
import TrafficMeter.Proofs.Snapshot.MergedVolume
import TrafficMeter.Proofs.Display.Wire
import TrafficMeter.Proofs.Text.Utf8
import TrafficMeter.Proofs.Service.QueryText
import TrafficMeter.Proofs.Service.CommandText
import TrafficMeter.Proofs.Service.Connections
import TrafficMeter.Proofs.Service.Pages
import TrafficMeter.Proofs.Service.SameView
import TrafficMeter.Proofs.Calendar.Succession
import TrafficMeter.Proofs.Chart.Shape
import TrafficMeter.Proofs.Display.RefusedTexts
import TrafficMeter.Proofs.Service.RefreshRuns
import TrafficMeter.Proofs.Service.RefreshSteps
import TrafficMeter.Proofs.Service.RefreshWork
import TrafficMeter.Proofs.Service.ServiceRefreshes
import TrafficMeter.Proofs.Calendar.Periods
import TrafficMeter.Proofs.Chart.CurrentDay
import TrafficMeter.Proofs.Chart.MonthToDate
import TrafficMeter.Proofs.Chart.CountersAndCharts
import TrafficMeter.Proofs.Number.Numeral
import TrafficMeter.Proofs.Period.Grammar
import TrafficMeter.Proofs.Period.Canonical
import TrafficMeter.Proofs.Chart.QuickPeriods
import TrafficMeter.Proofs.Text.Cut
import TrafficMeter.Proofs.Size.UnitChoice
import TrafficMeter.Proofs.Size.ExactBytes
import TrafficMeter.Proofs.Size.SumError
import TrafficMeter.Proofs.Service.LastMinute
import TrafficMeter.Proofs.Size.Grouping
import TrafficMeter.Proofs.Service.Statuses
import TrafficMeter.Proofs.Calendar.TimeText
import TrafficMeter.Proofs.Snapshot.Spellings
import TrafficMeter.Proofs.Size.ByteOrder
