import BenchScript.Main
import BenchScript.Proofs.Accounting
import BenchScript.Proofs.ArgumentSlots
import BenchScript.Proofs.Backends
import BenchScript.Proofs.ByteOrder
import BenchScript.Proofs.CommandChecks
import BenchScript.Proofs.CommandTables
import BenchScript.Proofs.CommandWords
import BenchScript.Proofs.HeaderForms
import BenchScript.Proofs.Headers
import BenchScript.Proofs.History
import BenchScript.Proofs.Inheritance
import BenchScript.Proofs.LibraryLayouts
import BenchScript.Proofs.ListedHeaders
import BenchScript.Proofs.ObjectMembers
import BenchScript.Proofs.PrintedEntries
import BenchScript.Proofs.RegistryRuns
import BenchScript.Proofs.SkippedSteps
import BenchScript.Proofs.Spans
import BenchScript.Proofs.Tags
import BenchScript.Proofs.Targets
import BenchScript.Proofs.UpperCase
import BenchScript.Proofs.WorkflowDocuments
import BenchScript.Proofs.ArgumentSeparators
import BenchScript.Proofs.CommandSpelling
import BenchScript.Proofs.ByteSuffixes
import BenchScript.Proofs.SlotVerdicts
import BenchScript.Proofs.UnitSuffixes
import BenchScript.Proofs.Slots
import BenchScript.Proofs.Rendering
import BenchScript.Proofs.LineBreaks
import BenchScript.Proofs.Placeholders
import BenchScript.Proofs.RoleChoice
import BenchScript.Proofs.FirstDevices
import BenchScript.Proofs.Addresses
import BenchScript.Proofs.NamedDevices
import BenchScript.Proofs.Places
import BenchScript.Proofs.Rounding
import BenchScript.Proofs.ShortestDecimals
import BenchScript.Proofs.DecimalLiterals
import BenchScript.Proofs.PlainDecimals
import BenchScript.Proofs.LiteralTexts
import BenchScript.Proofs.ParamValues
import BenchScript.Proofs.SpanCuts
import BenchScript.Proofs.TagSpellings
import BenchScript.Proofs.ExactRecords
import BenchScript.Proofs.SettingsDocuments
import BenchScript.Proofs.CommandLineRuns
import BenchScript.Proofs.ContextNames
