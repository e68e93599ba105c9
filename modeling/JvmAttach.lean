import JvmAttach.Act
import JvmAttach.AgentLibrary
import JvmAttach.Attach.Attachment
import JvmAttach.Attach.Listener
import JvmAttach.Attach.Signal
import JvmAttach.Attach.Socket
import JvmAttach.Attach.Trigger
import JvmAttach.Attach.Waiting
import JvmAttach.AttachFault
import JvmAttach.Command.Arguments
import JvmAttach.Command.Kit
import JvmAttach.Command.Options
import JvmAttach.Command.Run
import JvmAttach.Duration
import JvmAttach.Errno
import JvmAttach.Guard
import JvmAttach.Host.Basic
import JvmAttach.Host.Connection
import JvmAttach.Host.Files
import JvmAttach.Host.Machine
import JvmAttach.Host.Signal
import JvmAttach.Host.Time
import JvmAttach.Host.Walk
import JvmAttach.Load
import JvmAttach.Logging.Appender
import JvmAttach.Logging.Directive
import JvmAttach.Logging.Entry
import JvmAttach.Logging.Filter
import JvmAttach.Logging.LogFile
import JvmAttach.Logging.Setting
import JvmAttach.Logging.Setup
import JvmAttach.Logging.Standard
import JvmAttach.Main
import JvmAttach.Path
import JvmAttach.Pid
import JvmAttach.ProcessStatus
import JvmAttach.Proofs.Act
import JvmAttach.Proofs.Agenda
import JvmAttach.Proofs.Anchoring
import JvmAttach.Proofs.Answered
import JvmAttach.Proofs.Arrivals
import JvmAttach.Proofs.Attaching
import JvmAttach.Proofs.BrokenReading
import JvmAttach.Proofs.Bystanders
import JvmAttach.Proofs.CallDiscipline
import JvmAttach.Proofs.Channels
import JvmAttach.Proofs.Components
import JvmAttach.Proofs.CutOff
import JvmAttach.Proofs.Decimal
import JvmAttach.Proofs.Decoding
import JvmAttach.Proofs.Directories
import JvmAttach.Proofs.Effects
import JvmAttach.Proofs.Encoding
import JvmAttach.Proofs.Entries
import JvmAttach.Proofs.Exchange
import JvmAttach.Proofs.Faults
import JvmAttach.Proofs.Footprint
import JvmAttach.Proofs.Framing
import JvmAttach.Proofs.Gone
import JvmAttach.Proofs.Guard
import JvmAttach.Proofs.GuardLife
import JvmAttach.Proofs.Journal
import JvmAttach.Proofs.KnownMask
import JvmAttach.Proofs.LastName
import JvmAttach.Proofs.LogFilePath
import JvmAttach.Proofs.LogFileSetup
import JvmAttach.Proofs.LowerCase
import JvmAttach.Proofs.MessageText
import JvmAttach.Proofs.Numeral
import JvmAttach.Proofs.OnePath
import JvmAttach.Proofs.OneTarget
import JvmAttach.Proofs.Others
import JvmAttach.Proofs.Ownership
import JvmAttach.Proofs.Paths
import JvmAttach.Proofs.Positions
import JvmAttach.Proofs.Precedence
import JvmAttach.Proofs.ProcessIds
import JvmAttach.Proofs.QuitSignal
import JvmAttach.Proofs.Refusals
import JvmAttach.Proofs.Removal
import JvmAttach.Proofs.ReplyGrammar
import JvmAttach.Proofs.ReplyMeaning
import JvmAttach.Proofs.Session
import JvmAttach.Proofs.SettingNames
import JvmAttach.Proofs.Settings
import JvmAttach.Proofs.SignalOrder
import JvmAttach.Proofs.StatusReport
import JvmAttach.Proofs.StatusText
import JvmAttach.Proofs.Stretches
import JvmAttach.Proofs.TriggerMaking
import JvmAttach.Proofs.TriggerRemoval
import JvmAttach.Proofs.Unlinking
import JvmAttach.Proofs.Waiting
import JvmAttach.Proofs.Walk
import JvmAttach.Scripted
import JvmAttach.Text.Alphanumeric
import JvmAttach.Text.Blank
import JvmAttach.Text.Cased
import JvmAttach.Text.Lines
import JvmAttach.Text.LowerCase
import JvmAttach.Text.Numeral
import JvmAttach.Text.Pattern
import JvmAttach.Text.Pattern.Bracket
import JvmAttach.Text.Pattern.Escape
import JvmAttach.Text.Pattern.Switches
import JvmAttach.Text.Pieces
import JvmAttach.Text.Position
import JvmAttach.Text.Quoted
import JvmAttach.Text.Utf8
import JvmAttach.VirtualMachine
import JvmAttach.Wire.Reply
import JvmAttach.Wire.Request
import JvmAttach.Wire.Source
