import IKash.Lib.Machine
import IKash.Lib.Table
import IKash.Lib.Svc
import IKash.Lib.Pool
import IKash.Json
import IKash.Errors
import IKash.Schema
import IKash.Prisma
import IKash.World
import IKash.Lifecycle
import IKash.Escrow
import IKash.EventParser
import IKash.Listener
import IKash.Order
import IKash.Flow
import IKash.Confluence
import IKash.Mirror
import IKash.Guards
import IKash.OrderController
import IKash.Interleaving
import IKash.Races
import IKash.Lib.Feed
import IKash.Polling
import IKash.Auth
import IKash.PaymentMethodValidator
import IKash.Users
import IKash.Kyc
import IKash.Accounts
import IKash.Tokens
import IKash.Approval
import IKash.Restart
import IKash.Send
import IKash.WebhookBinding
import IKash.Challenges
import IKash.Deploy
import IKash.Desk
import IKash.Agreement
import IKash.Progress
import IKash.Resume
import IKash.Deployments
import IKash.Offers
import IKash.EscrowRequests
import IKash.MarketRequests
import IKash.Ownership
import IKash.OrderAudit
import IKash.Erasure
import IKash.StoredMethods
import IKash.Executions
import IKash.KycAudit
import IKash.WebhookReplay
import IKash.Lib.Buffer
import IKash.Signing
import IKash.Lib.Rooms
import IKash.Chat
import IKash.ChatPrivacy
import IKash.ChatDelivery
import IKash.ChatAuthors
import IKash.Identity
import IKash.Assets
import IKash.Lib.Keywords
import IKash.EventNames
import IKash.Lib.Decimal
import IKash.Amounts
import IKash.Stellar
import IKash.Sending
import IKash.Recipients
import IKash.Funding
import IKash.Setup
import IKash.AccountRules
import IKash.Creation
import IKash.Iban
import IKash.DigitRules
import IKash.Lib.WrittenKeys
import IKash.RuleLookup
import IKash.Duplicates
import IKash.ReleaseHashes
import IKash.Expiration
import IKash.Lib.Stages
import IKash.LoginAudit
import IKash.Lib.FixedWindow
import IKash.RateLimit
import IKash.RepeatedErasure
import IKash.FirstVisits
import IKash.Lib.Calendar
import IKash.Stats
import IKash.Timeline
import IKash.HttpExceptionFilter
import IKash.Lib.AppendOnly
import IKash.Lib.Effects
import IKash.Statements
import IKash.Api
import IKash.Cookies
import IKash.PollLoop
import IKash.Csrf
import IKash.Lib.Pages
import IKash.UserPages
import IKash.Lib.Alike
import IKash.Purge
import IKash.Footprint
import IKash.AuditBlind
import IKash.AuditLoss
import IKash.OneContract
import IKash.LostEvents
