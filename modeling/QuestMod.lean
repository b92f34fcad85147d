import QuestMod.Blueprint.Basic
import QuestMod.Blueprint.Loading
import QuestMod.Blueprint.Problem
import QuestMod.Blueprint.Reading
import QuestMod.Build.Basic
import QuestMod.Build.Constants
import QuestMod.Build.Descriptor
import QuestMod.Build.EntryPoint
import QuestMod.Build.Files
import QuestMod.Build.Solution
import QuestMod.CommandLine.Arguments
import QuestMod.CommandLine.Run
import QuestMod.Digest.NameId
import QuestMod.Digest.Sha1
import QuestMod.Document.Form
import QuestMod.Document.Json
import QuestMod.Document.JsonForm
import QuestMod.Document.RonForm
import QuestMod.Document.RonNumber
import QuestMod.Document.RonText
import QuestMod.Document.RonToken
import QuestMod.Document.TomlForm
import QuestMod.Document.TomlText
import QuestMod.Document.TomlValue
import QuestMod.Generation.ClassName
import QuestMod.Generation.Inspection
import QuestMod.Generation.Placement
import QuestMod.Generation.Plan
import QuestMod.Generation.Run
import QuestMod.Generation.StaleFile
import QuestMod.Main
import QuestMod.Npc.Class
import QuestMod.Number.Binary
import QuestMod.Number.Reading
import QuestMod.Number.Shortest
import QuestMod.Number.Single
import QuestMod.Path.Basic
import QuestMod.Path.Map
import QuestMod.Proofs.Blueprint.Problem
import QuestMod.Proofs.Build.NeatFiles
import QuestMod.Proofs.Generation.Assignment
import QuestMod.Proofs.Generation.Changes
import QuestMod.Proofs.Generation.ClassIdentity
import QuestMod.Proofs.Generation.ClassName
import QuestMod.Proofs.Generation.CleanRun
import QuestMod.Proofs.Generation.CleanUp
import QuestMod.Proofs.Generation.Copying
import QuestMod.Proofs.Generation.Icon
import QuestMod.Proofs.Generation.LineBreak
import QuestMod.Proofs.Generation.Numeral
import QuestMod.Proofs.Generation.Outputs
import QuestMod.Proofs.Generation.Placement
import QuestMod.Proofs.Generation.Preservation
import QuestMod.Proofs.Generation.Regeneration
import QuestMod.Proofs.Generation.ResourceName
import QuestMod.Proofs.Generation.Safety
import QuestMod.Proofs.Generation.StaleFile
import QuestMod.Proofs.Generation.Syntax
import QuestMod.Proofs.Generation.Writing
import QuestMod.Proofs.Npc.Numeral
import QuestMod.Proofs.Npc.PrintedClass
import QuestMod.Proofs.Number.Shortest
import QuestMod.Proofs.Path.Component
import QuestMod.Proofs.Path.FileName
import QuestMod.Proofs.Path.Map
import QuestMod.Proofs.Quest.Name
import QuestMod.Proofs.Quest.Numeral
import QuestMod.Proofs.Quest.PrintedClass
import QuestMod.Proofs.Settings.Layout
import QuestMod.Proofs.Source.Balance
import QuestMod.Proofs.Source.ClassFile
import QuestMod.Proofs.Source.CodeText
import QuestMod.Proofs.Source.Identifier
import QuestMod.Proofs.Source.LineBreak
import QuestMod.Proofs.Source.NameSet
import QuestMod.Proofs.Source.NeatSteps
import QuestMod.Proofs.Source.Remainder
import QuestMod.Proofs.Source.Scan
import QuestMod.Proofs.Source.ShownText
import QuestMod.Proofs.Storage.Event
import QuestMod.Proofs.Storage.Memory
import QuestMod.Proofs.Storage.Program
import QuestMod.Proofs.Text.Escape
import QuestMod.Proofs.Text.LineBreak
import QuestMod.Proofs.Text.LowerCase
import QuestMod.Proofs.Text.RawText
import QuestMod.Proofs.Text.Split
import QuestMod.Quest.Class
import QuestMod.Quest.DataClass
import QuestMod.Quest.Entry
import QuestMod.Quest.Lifecycle
import QuestMod.Quest.ReservedName
import QuestMod.Quest.Resolution
import QuestMod.Quest.Subscription
import QuestMod.Settings.Basic
import QuestMod.Settings.Loading
import QuestMod.Settings.Reading
import QuestMod.Source.ClassFile
import QuestMod.Source.Identifier
import QuestMod.Source.Literal
import QuestMod.Source.Member
import QuestMod.Source.NameSet
import QuestMod.Source.TokenTree
import QuestMod.Source.Usings
import QuestMod.Source.Writer
import QuestMod.Storage.Disk
import QuestMod.Storage.Faults
import QuestMod.Storage.Memory
import QuestMod.Storage.Program
import QuestMod.Storage.Text
import QuestMod.Text.Blank
import QuestMod.Text.Escape
import QuestMod.Text.IdentifierCharacter
import QuestMod.Text.IdentifierRanges
import QuestMod.Text.PrintableRanges
import QuestMod.Text.Quoted
import QuestMod.Text.Ranges
import QuestMod.Text.RawText
import QuestMod.Text.Reader
import QuestMod.Trigger.Catalog
import QuestMod.Proofs.Generation.FailedRun
import QuestMod.Proofs.Source.MarkedLine
import QuestMod.Proofs.Quest.StatedId
import QuestMod.Proofs.Generation.Lookup
import QuestMod.Proofs.Generation.Accounting
import QuestMod.Proofs.Quest.ReloadCode
import QuestMod.Proofs.Quest.SubscriptionCode
import QuestMod.Proofs.Generation.Starting
import QuestMod.Proofs.Quest.MemberName
import QuestMod.Proofs.Quest.TableAlignment
import QuestMod.Proofs.Generation.EmbeddedName
import QuestMod.Proofs.Generation.FailureIsolation
import QuestMod.Proofs.Settings.Separation
import QuestMod.Proofs.Generation.Retry
import QuestMod.Proofs.Source.FailurePlace
import QuestMod.Proofs.Generation.Removal
import QuestMod.Proofs.Source.LiteralLine
import QuestMod.Proofs.Source.Splicing
import QuestMod.Proofs.Blueprint.WellFormed
import QuestMod.Proofs.Build.Descriptor
import QuestMod.Proofs.Source.UsableName
import QuestMod.Proofs.Source.UniqueName
import QuestMod.Proofs.Source.LiteralToken
