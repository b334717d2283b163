import ProcessLaunch.Bpmn
import ProcessLaunch.CommandLine.Help
import ProcessLaunch.CommandLine.Options
import ProcessLaunch.CommandLine.Program
import ProcessLaunch.CommandLine.Terminal
import ProcessLaunch.Config.Basic
import ProcessLaunch.Config.Event
import ProcessLaunch.Config.Source
import ProcessLaunch.Engine.Basic
import ProcessLaunch.Engine.InMemory
import ProcessLaunch.Engine.Registry
import ProcessLaunch.Engine.Rehearsal
import ProcessLaunch.Engine.Rest
import ProcessLaunch.Engine.Rest.Answer
import ProcessLaunch.Engine.Session
import ProcessLaunch.Engine.Step
import ProcessLaunch.Engine.Uuid
import ProcessLaunch.Failure
import ProcessLaunch.File
import ProcessLaunch.Http.Domain
import ProcessLaunch.Http.Exchange
import ProcessLaunch.Http.Host
import ProcessLaunch.Http.Percent
import ProcessLaunch.Http.Punycode
import ProcessLaunch.Http.Status
import ProcessLaunch.Http.Url
import ProcessLaunch.Json.Error
import ProcessLaunch.Json.Number
import ProcessLaunch.Json.Object
import ProcessLaunch.Json.Reader
import ProcessLaunch.Json.Skip
import ProcessLaunch.Json.String
import ProcessLaunch.Json.Value
import ProcessLaunch.Launch.Notice
import ProcessLaunch.Launch.Run
import ProcessLaunch.Launch.Trace
import ProcessLaunch.Lifecycle.History
import ProcessLaunch.Lifecycle.State
import ProcessLaunch.Log
import ProcessLaunch.Log.Filter
import ProcessLaunch.Log.Line
import ProcessLaunch.Main
import ProcessLaunch.Markup.Document
import ProcessLaunch.Markup.Element
import ProcessLaunch.Markup.Error
import ProcessLaunch.Markup.Reference
import ProcessLaunch.Message
import ProcessLaunch.Number.Binary64
import ProcessLaunch.Number.Shortest
import ProcessLaunch.Path
import ProcessLaunch.Process
import ProcessLaunch.Properties.Entry
import ProcessLaunch.Properties.Escape
import ProcessLaunch.Properties.Line
import ProcessLaunch.Settings
import ProcessLaunch.Settings.Debug
import ProcessLaunch.Table
import ProcessLaunch.Text.Blank
import ProcessLaunch.Text.Hex
import ProcessLaunch.Text.Integer
import ProcessLaunch.Text.Pieces
import ProcessLaunch.Text.Quoted
import ProcessLaunch.Text.Unprintable
import ProcessLaunch.Text.Utf8
import ProcessLaunch.Unicode.Direction
import ProcessLaunch.Unicode.Joining
import ProcessLaunch.Unicode.Mark
import ProcessLaunch.Unicode.Name
import ProcessLaunch.Unicode.Normal
import ProcessLaunch.Unicode.Run
import ProcessLaunch.Proofs.Launch.Course
import ProcessLaunch.Proofs.Launch.Trace
import ProcessLaunch.Proofs.Launch.Protocol
import ProcessLaunch.Proofs.Properties.Spelling
import ProcessLaunch.Proofs.Properties.Written
import ProcessLaunch.Proofs.Engine.RegistryLog
import ProcessLaunch.Proofs.Engine.SessionLog
import ProcessLaunch.Proofs.Settings
import ProcessLaunch.Proofs.Launch.DryRun
import ProcessLaunch.Proofs.Json.Reader
import ProcessLaunch.Proofs.Json.String
import ProcessLaunch.Proofs.Json.Number
import ProcessLaunch.Proofs.Json.Value
import ProcessLaunch.Proofs.Json.Skip
import ProcessLaunch.Proofs.Json.Object
import ProcessLaunch.Proofs.Message.Format
import ProcessLaunch.Proofs.Message.RoundTrip
import ProcessLaunch.Proofs.Config.Secrets
import ProcessLaunch.Proofs.File
import ProcessLaunch.Proofs.Launch.Secrecy
import ProcessLaunch.Proofs.Http.Percent
import ProcessLaunch.Proofs.Http.Url
import ProcessLaunch.Proofs.Engine.StartTarget
import ProcessLaunch.Proofs.Http.Exchange
import ProcessLaunch.Proofs.Markup.Value
import ProcessLaunch.Proofs.Markup.Tag
import ProcessLaunch.Proofs.Markup.Nesting
import ProcessLaunch.Proofs.Markup.Content
import ProcessLaunch.Proofs.Markup.Cut
import ProcessLaunch.Proofs.Bpmn
import ProcessLaunch.Proofs.Engine.CutModel
import ProcessLaunch.Proofs.Engine.RestCourse
import ProcessLaunch.Proofs.Engine.LogInvariant
import ProcessLaunch.Proofs.Engine.Consistency
import ProcessLaunch.Proofs.Properties.Block
import ProcessLaunch.Proofs.Properties.Fold
import ProcessLaunch.Proofs.Engine.Refusal
import ProcessLaunch.Proofs.Launch.Report
import ProcessLaunch.Proofs.Properties.Split
import ProcessLaunch.Proofs.Properties.UnitRun
import ProcessLaunch.Proofs.Properties.Blank
import ProcessLaunch.Proofs.Properties.Newline
import ProcessLaunch.Proofs.Config.Dump
import ProcessLaunch.Proofs.Text.Blank
import ProcessLaunch.Proofs.Text.Integer
import ProcessLaunch.Proofs.Config.Integer
import ProcessLaunch.Proofs.Settings.Policy
import ProcessLaunch.Proofs.Settings.Warning
import ProcessLaunch.Proofs.Settings.Rereading
import ProcessLaunch.Proofs.Path
import ProcessLaunch.Proofs.Process
import ProcessLaunch.Proofs.Path.Resolution
import ProcessLaunch.Proofs.Engine.ResourcePath
import ProcessLaunch.Proofs.Json.Cut
import ProcessLaunch.Proofs.Message.Cut
import ProcessLaunch.Proofs.Json.Record
import ProcessLaunch.Proofs.Engine.AnswerFormat
import ProcessLaunch.Proofs.Engine.AnswerMapping
import ProcessLaunch.Proofs.Config.Source
import ProcessLaunch.Proofs.Properties.LineEnd
import ProcessLaunch.Proofs.Properties.Round
import ProcessLaunch.Proofs.Properties.LookAhead
