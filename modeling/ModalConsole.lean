import ModalConsole.Accounts
import ModalConsole.Binary64.Basic
import ModalConsole.Binary64.Decimal
import ModalConsole.Binary64.Root
import ModalConsole.Command.Line
import ModalConsole.Command.Table
import ModalConsole.Desktop.Basic
import ModalConsole.Desktop.Layout
import ModalConsole.Economy.Amount
import ModalConsole.Economy.Basic
import ModalConsole.Economy.Record
import ModalConsole.Host.Basic
import ModalConsole.Host.Event
import ModalConsole.Host.LineEditor
import ModalConsole.Host.Sessions
import ModalConsole.Input
import ModalConsole.Main
import ModalConsole.Manual.Pager
import ModalConsole.Manual.Pages
import ModalConsole.Power
import ModalConsole.ProductKey
import ModalConsole.RandomWords
import ModalConsole.Screen.Canvas
import ModalConsole.Screen.Cells
import ModalConsole.Screen.Drawing
import ModalConsole.Session.Basic
import ModalConsole.Session.Boot
import ModalConsole.Session.Builtin
import ModalConsole.Session.Dispatch
import ModalConsole.Session.Game
import ModalConsole.Session.Handlers.Boot
import ModalConsole.Session.Handlers.Game
import ModalConsole.Session.Handlers.Shell
import ModalConsole.Session.Mode
import ModalConsole.Session.Program
import ModalConsole.Session.Shell
import ModalConsole.Session.Step
import ModalConsole.Settings.Basic
import ModalConsole.Settings.Json
import ModalConsole.Settings.Library
import ModalConsole.Settings.Load
import ModalConsole.Settings.Name
import ModalConsole.Settings.Standard
import ModalConsole.Settings.Value
import ModalConsole.Storage.Disk
import ModalConsole.Storage.Store
import ModalConsole.Terminal.Basic
import ModalConsole.Terminal.Script
import ModalConsole.Text.Blank
import ModalConsole.Text.Digits
import ModalConsole.Text.LetterCase
import ModalConsole.Text.LetterCase.Table
import ModalConsole.Text.Quoted
import ModalConsole.Text.Quoted.Table
import ModalConsole.Text.Ranges
import ModalConsole.Timestamp
import ModalConsole.Proofs.Command.Line
import ModalConsole.Proofs.Command.Table
import ModalConsole.Proofs.Session.Builtin
import ModalConsole.Proofs.Session.Handlers
import ModalConsole.Proofs.Session.Run
import ModalConsole.Proofs.Session.Move
import ModalConsole.Proofs.Accounts
import ModalConsole.Proofs.Session.Accounts
import ModalConsole.Proofs.Session.Power
import ModalConsole.Proofs.Session.Coherent
import ModalConsole.Proofs.Session.Frame
import ModalConsole.Proofs.Binary64.Rounding
import ModalConsole.Proofs.Binary64.Order
import ModalConsole.Proofs.Text.Digits
import ModalConsole.Proofs.Binary64.Decimal
import ModalConsole.Proofs.Text.Lines
import ModalConsole.Proofs.Economy.Record
import ModalConsole.Proofs.Economy.Sound
import ModalConsole.Proofs.Session.Economy
import ModalConsole.Proofs.Storage.Disk
import ModalConsole.Proofs.Storage.Store
import ModalConsole.Proofs.Storage.FileName
import ModalConsole.Proofs.Storage.Keyed
import ModalConsole.Proofs.Session.Computer
import ModalConsole.Proofs.Session.Dispatch
import ModalConsole.Proofs.ProductKey
import ModalConsole.Proofs.Session.Twin
import ModalConsole.Proofs.Session.Stage
import ModalConsole.Proofs.Session.Password
import ModalConsole.Proofs.Session.Randomness
import ModalConsole.Proofs.Host.Read
import ModalConsole.Proofs.Host.Run
import ModalConsole.Proofs.Host.Interrupt
import ModalConsole.Proofs.Host.Reboot
import ModalConsole.Proofs.Manual.Window
import ModalConsole.Proofs.Host.Termination
import ModalConsole.Proofs.Session.ModeGraph
import ModalConsole.Proofs.Session.DesktopPower
import ModalConsole.Proofs.Session.Colors
import ModalConsole.Proofs.Session.History
import ModalConsole.Proofs.Session.KeyPurchase
import ModalConsole.Proofs.Economy.Modest
import ModalConsole.Proofs.Session.Savings
import ModalConsole.Proofs.Screen.Axis
import ModalConsole.Proofs.Screen.Cells
import ModalConsole.Proofs.Screen.Clicks
import ModalConsole.Proofs.Screen.Nesting
import ModalConsole.Proofs.Screen.Layers
import ModalConsole.Proofs.Screen.Words
import ModalConsole.Proofs.Desktop.Presses
import ModalConsole.Proofs.Manual.Leaving
import ModalConsole.Proofs.Manual.Arrows
import ModalConsole.Proofs.Manual.Reaching
import ModalConsole.Proofs.Manual.Topics
import ModalConsole.Proofs.Session.Reading
import ModalConsole.Proofs.Command.Layout
import ModalConsole.Proofs.Command.Flags
import ModalConsole.Proofs.Command.Resolution
import ModalConsole.Proofs.Economy.Fields
import ModalConsole.Proofs.RandomWords
import ModalConsole.Proofs.KeyShape
import ModalConsole.Proofs.Host.LineEditor
import ModalConsole.Proofs.Host.Presses
import ModalConsole.Proofs.Host.ScreenLine
import ModalConsole.Proofs.Power
import ModalConsole.Proofs.Binary64.Whole
import ModalConsole.Proofs.Economy.Amount
import ModalConsole.Proofs.Settings.Json
import ModalConsole.Proofs.Settings.Library
import ModalConsole.Proofs.Settings.Standard
import ModalConsole.Proofs.Settings.Fields
import ModalConsole.Proofs.Settings.Default
import ModalConsole.Proofs.Typing
