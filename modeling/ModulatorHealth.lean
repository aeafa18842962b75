import ModulatorHealth.Device.Scripted
import ModulatorHealth.Main
import ModulatorHealth.DomainName.Mapping
import ModulatorHealth.DomainName.Punycode
import ModulatorHealth.Unicode.BidiClass
import ModulatorHealth.Unicode.Composition
import ModulatorHealth.Unicode.JoiningType
import ModulatorHealth.Proofs.AggregateHistory
import ModulatorHealth.Proofs.RunStep
import ModulatorHealth.Proofs.RunPosition
import ModulatorHealth.Proofs.PlanCalls
import ModulatorHealth.Proofs.RunEnd
import ModulatorHealth.Proofs.RunSchedule
import ModulatorHealth.Proofs.RunCompletion
import ModulatorHealth.Proofs.ProbeCourses
import ModulatorHealth.Proofs.SequentialReference
import ModulatorHealth.Proofs.Gating
import ModulatorHealth.Proofs.ScriptedRows
import ModulatorHealth.Proofs.ScriptedReference
import ModulatorHealth.Proofs.RunRecords
import ModulatorHealth.Proofs.Noninterference
import ModulatorHealth.Proofs.TrackerReuse
import ModulatorHealth.Proofs.TerminalRows
import ModulatorHealth.Proofs.LiveOutput
import ModulatorHealth.Proofs.DigitRows
import ModulatorHealth.Proofs.CalendarDays
import ModulatorHealth.Proofs.TimestampText
import ModulatorHealth.Proofs.JsonText
import ModulatorHealth.Proofs.ReportText
import ModulatorHealth.Proofs.CheckVerdict
import ModulatorHealth.Proofs.EnvelopeReading
import ModulatorHealth.Proofs.PayloadReading
import ModulatorHealth.Proofs.QueryExits
import ModulatorHealth.Proofs.TrackerPublication
import ModulatorHealth.Proofs.CallOrder
import ModulatorHealth.Proofs.DataRoundTrip
import ModulatorHealth.Proofs.RunSpelling
import ModulatorHealth.Proofs.WireValues
import ModulatorHealth.Proofs.ProbeDeeds
import ModulatorHealth.Proofs.CounterRounds
import ModulatorHealth.Proofs.EnvelopeForms
import ModulatorHealth.Proofs.FailureReasons
import ModulatorHealth.Proofs.NearestDouble
import ModulatorHealth.Proofs.ExactDoubles
import ModulatorHealth.Proofs.DecimalTexts
import ModulatorHealth.Proofs.IntegerViews
import ModulatorHealth.Proofs.TypedIntegers
import ModulatorHealth.Proofs.ObjectMembers
import ModulatorHealth.Proofs.EngineState
import ModulatorHealth.Proofs.DoubleTexts
import ModulatorHealth.Proofs.TypedValues
import ModulatorHealth.Proofs.ValueViews
import ModulatorHealth.Proofs.FrameCounter
import ModulatorHealth.Proofs.BaseUrl
import ModulatorHealth.Proofs.UrlOverride
import ModulatorHealth.Proofs.UncheckedReading
import ModulatorHealth.Proofs.CommandWords
import ModulatorHealth.Proofs.SetOperands
import ModulatorHealth.Proofs.UnreachableDevice
import ModulatorHealth.Proofs.RecordedSamples
