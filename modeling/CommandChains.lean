import CommandChains.Activity
import CommandChains.Await
import CommandChains.Chain.Basic
import CommandChains.Chain.Printed
import CommandChains.Chain.Run
import CommandChains.CommandLine.Options
import CommandChains.CommandLine.Program
import CommandChains.CommandLine.Run
import CommandChains.Ending
import CommandChains.Facility.Basic
import CommandChains.Facility.Scripted
import CommandChains.Failure
import CommandChains.Handle
import CommandChains.Input.ByteSource
import CommandChains.Input.LineSource
import CommandChains.Input.Prompted
import CommandChains.Input.Unprompted
import CommandChains.Journal
import CommandChains.Launch
import CommandChains.Log.Filter
import CommandChains.Log.Pattern
import CommandChains.Log.Record
import CommandChains.Machine.Account
import CommandChains.Machine.Arguments
import CommandChains.Machine.Calendar.Basic
import CommandChains.Machine.Calendar.Understanding
import CommandChains.Machine.CharacterClass
import CommandChains.Machine.Charset
import CommandChains.Machine.Deflate
import CommandChains.Machine.Delegate.Collection
import CommandChains.Machine.Delegate.Editing
import CommandChains.Machine.Delegate.Finding
import CommandChains.Machine.Delegate.Records
import CommandChains.Machine.Delegate.Scripting
import CommandChains.Machine.Delegate.Surroundings
import CommandChains.Machine.Delegate.Variables
import CommandChains.Machine.Dialogue
import CommandChains.Machine.Difference
import CommandChains.Machine.Digest
import CommandChains.Machine.Duration
import CommandChains.Machine.Edit.Reader
import CommandChains.Machine.Edit.Run
import CommandChains.Machine.Edit.Script
import CommandChains.Machine.Edit.State
import CommandChains.Machine.Expression
import CommandChains.Machine.Files
import CommandChains.Machine.Installation
import CommandChains.Machine.Numeral
import CommandChains.Machine.Octets
import CommandChains.Machine.Ordered.Pattern
import CommandChains.Machine.Ordered.Reader
import CommandChains.Machine.Pages.Press
import CommandChains.Machine.Path
import CommandChains.Machine.Performance
import CommandChains.Machine.Permission
import CommandChains.Machine.Process
import CommandChains.Machine.Program
import CommandChains.Machine.Quotation
import CommandChains.Machine.Records.Reader
import CommandChains.Machine.Records.Run
import CommandChains.Machine.Records.State
import CommandChains.Machine.Records.Streams
import CommandChains.Machine.Records.Token
import CommandChains.Machine.Records.Value
import CommandChains.Machine.Scripting.Builtin
import CommandChains.Machine.Scripting.Channels
import CommandChains.Machine.Scripting.Filling
import CommandChains.Machine.Scripting.Library
import CommandChains.Machine.Scripting.Links
import CommandChains.Machine.Scripting.Packing
import CommandChains.Machine.Scripting.Reader
import CommandChains.Machine.Scripting.Run
import CommandChains.Machine.Scripting.Scanner
import CommandChains.Machine.Scripting.Searching
import CommandChains.Machine.Scripting.State
import CommandChains.Machine.Scripting.Syntax
import CommandChains.Machine.Scripting.Value
import CommandChains.Machine.Scripting.Words
import CommandChains.Machine.Search
import CommandChains.Machine.Shell
import CommandChains.Machine.Shell.Builtin.Basic
import CommandChains.Machine.Shell.Builtin.Control
import CommandChains.Machine.Shell.Builtin.Jobs
import CommandChains.Machine.Shell.Builtin.Names
import CommandChains.Machine.Shell.Builtin.Places
import CommandChains.Machine.Shell.Builtin.Printing
import CommandChains.Machine.Shell.Builtin.Reading
import CommandChains.Machine.Shell.Builtin.Variables
import CommandChains.Machine.Shell.Expansion
import CommandChains.Machine.Shell.Grammar
import CommandChains.Machine.Shell.Parameter
import CommandChains.Machine.Shell.Pattern
import CommandChains.Machine.Shell.Printing
import CommandChains.Machine.Shell.Quoting
import CommandChains.Machine.Shell.Run
import CommandChains.Machine.Shell.Script
import CommandChains.Machine.Shell.State
import CommandChains.Machine.Shell.Sum
import CommandChains.Machine.Shell.Syntax
import CommandChains.Machine.Shell.Token
import CommandChains.Machine.Shell.Words
import CommandChains.Machine.Signal
import CommandChains.Machine.Tool.Arithmetic
import CommandChains.Machine.Tool.Basic
import CommandChains.Machine.Tool.Blocks
import CommandChains.Machine.Tool.Changes
import CommandChains.Machine.Tool.Clock
import CommandChains.Machine.Tool.Columns
import CommandChains.Machine.Tool.Comparison
import CommandChains.Machine.Tool.Compression
import CommandChains.Machine.Tool.Condition
import CommandChains.Machine.Tool.Copying
import CommandChains.Machine.Tool.Digests
import CommandChains.Machine.Tool.Dump
import CommandChains.Machine.Tool.Facts
import CommandChains.Machine.Tool.Fields
import CommandChains.Machine.Tool.Format
import CommandChains.Machine.Tool.Identity
import CommandChains.Machine.Tool.Keywords
import CommandChains.Machine.Tool.Lines
import CommandChains.Machine.Tool.Listing
import CommandChains.Machine.Tool.Making
import CommandChains.Machine.Tool.Matching
import CommandChains.Machine.Tool.Options
import CommandChains.Machine.Tool.Order
import CommandChains.Machine.Tool.Pages
import CommandChains.Machine.Tool.Paragraph
import CommandChains.Machine.Tool.Recoding
import CommandChains.Machine.Tool.Sameness
import CommandChains.Machine.Tool.Search
import CommandChains.Machine.Tool.Translation
import CommandChains.Machine.Tool.Units
import CommandChains.Machine.Tool.Whereabouts
import CommandChains.Main
import CommandChains.Proofs.Activity
import CommandChains.Proofs.Chain.Account
import CommandChains.Proofs.Chain.Comparison
import CommandChains.Proofs.Chain.Cut
import CommandChains.Proofs.Chain.Ordering
import CommandChains.Proofs.Chain.Printed
import CommandChains.Proofs.Chain.RepeatedWait
import CommandChains.Proofs.Chain.Run
import CommandChains.Proofs.Chain.Schedule
import CommandChains.Proofs.Chain.Stretches
import CommandChains.Proofs.Chain.Transcript
import CommandChains.Proofs.Chain.Truncation
import CommandChains.Proofs.Chain.Words
import CommandChains.Proofs.Comparison
import CommandChains.Proofs.Cost
import CommandChains.Proofs.Facility.Children
import CommandChains.Proofs.Facility.Credit
import CommandChains.Proofs.Facility.Departures
import CommandChains.Proofs.Facility.Processes
import CommandChains.Proofs.Facility.ReapOrder
import CommandChains.Proofs.Facility.Scripted
import CommandChains.Proofs.Facility.Trace
import CommandChains.Proofs.Flushing
import CommandChains.Proofs.Input.Decoding
import CommandChains.Proofs.Input.Failures
import CommandChains.Proofs.Input.Lines
import CommandChains.Proofs.Launch.Custody
import CommandChains.Proofs.Logging
import CommandChains.Proofs.Segments
import CommandChains.Proofs.Session.Children
import CommandChains.Proofs.Session.Comparison
import CommandChains.Proofs.Session.Cost
import CommandChains.Proofs.Session.Counter
import CommandChains.Proofs.Session.Execute
import CommandChains.Proofs.Session.Flushing
import CommandChains.Proofs.Session.LineByLine
import CommandChains.Proofs.Session.Logging
import CommandChains.Proofs.Session.Piped
import CommandChains.Proofs.Session.Portions
import CommandChains.Proofs.Session.Resumption
import CommandChains.Proofs.Session.Source
import CommandChains.Proofs.Session.StartFailures
import CommandChains.Proofs.Session.StrayDelimiters
import CommandChains.Proofs.Session.Trace
import CommandChains.Proofs.SharedBuffers
import CommandChains.Proofs.Sink
import CommandChains.Proofs.Sink.Replay
import CommandChains.Proofs.Text.Quoted
import CommandChains.Proofs.Text.Utf8
import CommandChains.Proofs.Text.Words
import CommandChains.Session
import CommandChains.SessionError
import CommandChains.SessionStep
import CommandChains.SharedBuffers
import CommandChains.Sink
import CommandChains.SystemError
import CommandChains.Text.Alphanumeric
import CommandChains.Text.CodeRanges
import CommandChains.Text.GraphemeCluster
import CommandChains.Text.Lines
import CommandChains.Text.Quoted
import CommandChains.Text.Utf8
import CommandChains.Text.Words
import CommandChains.World
import CommandChains.WorldStep
