import BearerCache.Cache.Session
import BearerCache.Fetch.Exchange
import BearerCache.Fetch.Generator
import BearerCache.Fetch.Scripted
import BearerCache.Lease.Document
import BearerCache.Settings.LoadTest
import BearerCache.Cache.History
import BearerCache.Cache.Transcript
import BearerCache.Proofs.Steps
import BearerCache.Proofs.Gates
import BearerCache.Proofs.Contents
import BearerCache.Proofs.Milestones
import BearerCache.Proofs.SingleFlight
import BearerCache.Proofs.Refetching
import BearerCache.Proofs.FormEncoding
import BearerCache.Proofs.EntryKeys
import BearerCache.Proofs.Provenance
import BearerCache.Proofs.Invalidation
import BearerCache.Proofs.ScopeWords
import BearerCache.Proofs.OptionOrder
import BearerCache.Proofs.DecimalText
import BearerCache.Proofs.Stories
import BearerCache.Proofs.Ways
import BearerCache.Proofs.Writes
import BearerCache.Proofs.Accounting
import BearerCache.Proofs.Secrecy
import BearerCache.Cache.Command
import BearerCache.Proofs.Ledger
import BearerCache.Proofs.Sequential
import BearerCache.Proofs.Refinement
import BearerCache.Proofs.GateUse
import BearerCache.Proofs.RequestRules
import BearerCache.Proofs.Construction
import BearerCache.Proofs.BaseAddress
import BearerCache.Proofs.HostText
import BearerCache.Proofs.AcceptedSettings
import BearerCache.Proofs.WireQuery
import BearerCache.Proofs.Base64Text
import BearerCache.Proofs.GrantScope
import BearerCache.Proofs.Lifetimes
import BearerCache.Proofs.CalendarEnd
import BearerCache.Proofs.FetchOutcomes
import BearerCache.Proofs.Lateness
import BearerCache.Proofs.GrantText
import BearerCache.Proofs.Continuations
import BearerCache.Proofs.SharedFetch
import BearerCache.Proofs.Punycode
import BearerCache.Proofs.TimeText
import BearerCache.Proofs.Casing
import BearerCache.Proofs.DomainText
import BearerCache.Proofs.HostNumbers
import BearerCache.Proofs.HostReading
import BearerCache.Proofs.EscapedText
import BearerCache.Proofs.NormalAddress
import BearerCache.Proofs.AddressText
import BearerCache.Proofs.SettingsText
import BearerCache.Proofs.Ideographs
import BearerCache.Proofs.LongLabel
import BearerCache.Proofs.RoundTrip
import BearerCache.Proofs.FurtherOptions
import BearerCache.Proofs.CanonicalForm
import BearerCache.Proofs.JsonGrammar
import BearerCache.Proofs.JsonStringScan
import BearerCache.Proofs.JsonNumberScan
import BearerCache.Proofs.JsonSkip
import BearerCache.Proofs.ExactReaders
import BearerCache.Proofs.ExactRecords
import BearerCache.Proofs.SoleMember
import BearerCache.Proofs.CompactToken
import BearerCache.Proofs.LargeNumbers
import BearerCache.Proofs.ExpiryClaim
import BearerCache.Proofs.ByteOrder
import BearerCache.Proofs.TokenResponse
import BearerCache.Proofs.CanonicalScopes
import BearerCache.Proofs.GrantLifetime
import BearerCache.Proofs.Freshness
import BearerCache.Proofs.EndpointAddress
import BearerCache.Proofs.RecordParts
import BearerCache.Proofs.KeyMembers
import BearerCache.Proofs.SigningKeys
import BearerCache.Proofs.KeyBlobs
import BearerCache.Proofs.JsonObjections
import BearerCache.Proofs.JsonFrames
import BearerCache.Proofs.KeyFaults
import BearerCache.Proofs.BulkTokens
import BearerCache.Proofs.LifetimeText
import BearerCache.Proofs.Authorization
