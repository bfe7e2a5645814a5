import FileTransfer.CommandLine.Program
import FileTransfer.Main
import FileTransfer.Pool.Replay
import FileTransfer.Pool.Sessions
import FileTransfer.Proofs.Pool.Breakage
import FileTransfer.Proofs.Session.ReplyStream
import FileTransfer.Scenario
import FileTransfer.Proofs.Text.Split
import FileTransfer.Proofs.Calendar.Listed
import FileTransfer.Proofs.Calendar.Order
import FileTransfer.Proofs.Listing.Grammar
import FileTransfer.Proofs.Listing.Decoding
import FileTransfer.Proofs.Listing.Failures
import FileTransfer.Proofs.Listing.RoundTrip
import FileTransfer.Proofs.Listing.Rewording
import FileTransfer.Proofs.Pool.ReadDirectory
import FileTransfer.Proofs.Pool.Dialling
import FileTransfer.Proofs.Pool.DirectoryNamed
import FileTransfer.Proofs.Pool.OwnEntries
import FileTransfer.Proofs.Pool.EntryStatus
import FileTransfer.Proofs.Pool.Closing
import FileTransfer.Proofs.Pool.Peak
import FileTransfer.Proofs.Pool.Bracket
import FileTransfer.Proofs.Pool.CommandLines
import FileTransfer.Proofs.Pool.LineBreaks
import FileTransfer.Proofs.Pool.LoneWorker
import FileTransfer.Proofs.Pool.Isolation
import FileTransfer.Proofs.Settings.Loading
import FileTransfer.Proofs.Session.Passwords
import FileTransfer.Proofs.Session.ExpectedReply
import FileTransfer.Proofs.Session.PassiveRefusal
import FileTransfer.Proofs.Pool.RefusedLogin
import FileTransfer.Proofs.Listing.Names
import FileTransfer.Proofs.Listing.Rows
import FileTransfer.Proofs.Session.StreamLife
