import PlayerHub.Account.Basic
import PlayerHub.Account.Username
import PlayerHub.Calendar.Date
import PlayerHub.Calendar.Instant
import PlayerHub.Calendar.Written
import PlayerHub.Data.Binary64
import PlayerHub.Data.KeyMap
import PlayerHub.Data.Lookup
import PlayerHub.Data.NameMap
import PlayerHub.Digest.Hmac
import PlayerHub.Digest.Sha256
import PlayerHub.Document.Basic
import PlayerHub.Document.Store
import PlayerHub.Duration
import PlayerHub.Gift.Catalog
import PlayerHub.Gift.Redeem
import PlayerHub.Invite.Accept
import PlayerHub.Invite.Basic
import PlayerHub.Invite.Reward
import PlayerHub.Json.Flaw
import PlayerHub.Json.Number
import PlayerHub.Json.Printer
import PlayerHub.Json.Quoted
import PlayerHub.Json.Reader
import PlayerHub.Json.Record
import PlayerHub.Json.Scanner
import PlayerHub.Json.Token
import PlayerHub.Json.Value
import PlayerHub.Platform.Address
import PlayerHub.Platform.Answer
import PlayerHub.Platform.Basic
import PlayerHub.Platform.Exchange
import PlayerHub.Platform.Settings
import PlayerHub.Player.Action
import PlayerHub.Player.Feedback
import PlayerHub.Player.Progress
import PlayerHub.Proofs.Account.Directory
import PlayerHub.Proofs.Account.History
import PlayerHub.Proofs.Account.Tables
import PlayerHub.Proofs.Calendar.Written
import PlayerHub.Proofs.Data.KeyMap
import PlayerHub.Proofs.Data.NameMap
import PlayerHub.Proofs.Digest.Hmac
import PlayerHub.Proofs.Document.Basic
import PlayerHub.Proofs.Document.Concealed
import PlayerHub.Proofs.Document.Shelf
import PlayerHub.Proofs.Document.Spelling
import PlayerHub.Proofs.Document.Store
import PlayerHub.Proofs.Game.Advance
import PlayerHub.Proofs.Game.Basic
import PlayerHub.Proofs.Game.Claiming
import PlayerHub.Proofs.Game.Failure
import PlayerHub.Proofs.Game.Garbled
import PlayerHub.Proofs.Game.Gifts
import PlayerHub.Proofs.Game.Invites
import PlayerHub.Proofs.Game.Journal
import PlayerHub.Proofs.Game.Links
import PlayerHub.Proofs.Game.Ready
import PlayerHub.Proofs.Game.Reports
import PlayerHub.Proofs.Game.Rewards
import PlayerHub.Proofs.Gift.Catalog
import PlayerHub.Proofs.Gift.Redeem
import PlayerHub.Proofs.Gift.Written
import PlayerHub.Proofs.Invite.Accept
import PlayerHub.Proofs.Invite.Basic
import PlayerHub.Proofs.Invite.Claim
import PlayerHub.Proofs.Invite.Ready
import PlayerHub.Proofs.Invite.Reward
import PlayerHub.Proofs.Json.Members
import PlayerHub.Proofs.Json.Record
import PlayerHub.Proofs.Json.RoundTrip
import PlayerHub.Proofs.Json.Scan
import PlayerHub.Proofs.Perform
import PlayerHub.Proofs.Platform.Address
import PlayerHub.Proofs.Platform.Answer
import PlayerHub.Proofs.Platform.Limit
import PlayerHub.Proofs.Platform.Rejection
import PlayerHub.Proofs.Platform.Request
import PlayerHub.Proofs.Platform.Verdict
import PlayerHub.Proofs.Player.Level
import PlayerHub.Proofs.Player.Progress
import PlayerHub.Proofs.Service.Arrival
import PlayerHub.Proofs.Service.Call
import PlayerHub.Proofs.Service.FailedSignIn
import PlayerHub.Proofs.Service.Frame
import PlayerHub.Proofs.Service.Garbled
import PlayerHub.Proofs.Service.Lineage
import PlayerHub.Proofs.Service.PlayerCall
import PlayerHub.Proofs.Service.Settings
import PlayerHub.Proofs.Service.SignIn
import PlayerHub.Proofs.Service.SoleSession
import PlayerHub.Proofs.Session.Basic
import PlayerHub.Proofs.Session.Claims
import PlayerHub.Proofs.Session.FailedRenewal
import PlayerHub.Proofs.Session.Keys
import PlayerHub.Proofs.Session.Lifetime
import PlayerHub.Proofs.Session.Origin
import PlayerHub.Proofs.Session.Purpose
import PlayerHub.Proofs.Session.Registry
import PlayerHub.Proofs.Session.Renewal
import PlayerHub.Proofs.Session.Run
import PlayerHub.Proofs.Session.Step
import PlayerHub.Proofs.Session.Sweep
import PlayerHub.Proofs.Session.Token
import PlayerHub.Proofs.Session.Users
import PlayerHub.Proofs.Storage.Batch
import PlayerHub.Proofs.Storage.Confinement
import PlayerHub.Proofs.Text.Base64Url
import PlayerHub.Proofs.Text.Decimal
import PlayerHub.Proofs.Text.Form
import PlayerHub.Proofs.Text.Utf8
import PlayerHub.Proofs.Uuid
import PlayerHub.Service.Basic
import PlayerHub.Service.Failure
import PlayerHub.Service.Settings
import PlayerHub.Session.Algorithm
import PlayerHub.Session.Basic
import PlayerHub.Session.Claims
import PlayerHub.Session.Registry
import PlayerHub.Session.Settings
import PlayerHub.Session.Token
import PlayerHub.Session.WebKey
import PlayerHub.Storage.Basic
import PlayerHub.Storage.Object
import PlayerHub.Text.Base64Url
import PlayerHub.Text.Blank
import PlayerHub.Text.Decimal
import PlayerHub.Text.Form
import PlayerHub.Text.Hex
import PlayerHub.Text.Utf8
import PlayerHub.Uuid
