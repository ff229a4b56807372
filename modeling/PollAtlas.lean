import PollAtlas.Address.Domain.Direction
import PollAtlas.Address.Domain.Joiner
import PollAtlas.Address.Domain.Label
import PollAtlas.Address.Domain.Spelling
import PollAtlas.Address.Host
import PollAtlas.Address.Percent
import PollAtlas.Address.Punycode
import PollAtlas.Address.Query
import PollAtlas.Address.Url
import PollAtlas.Boundary.Drawing
import PollAtlas.Boundary.GeoJson
import PollAtlas.Boundary.Geometry
import PollAtlas.Boundary.Outline
import PollAtlas.Boundary.Projection
import PollAtlas.Command.Arguments
import PollAtlas.Command.Catalog
import PollAtlas.Command.Help
import PollAtlas.Command.Option
import PollAtlas.Command.Run
import PollAtlas.Election.Candidacy
import PollAtlas.Election.Master
import PollAtlas.Election.Office
import PollAtlas.Election.Priority
import PollAtlas.Election.Resolution
import PollAtlas.Election.Title
import PollAtlas.Journal
import PollAtlas.Json.Diagnostic
import PollAtlas.Json.Document
import PollAtlas.Json.Feed
import PollAtlas.Json.Printer
import PollAtlas.Json.Record
import PollAtlas.Json.Token
import PollAtlas.Json.Value
import PollAtlas.Main
import PollAtlas.Number.Decimal
import PollAtlas.Number.Double
import PollAtlas.Number.Hex
import PollAtlas.Number.Power
import PollAtlas.Number.Scalar
import PollAtlas.Number.Text
import PollAtlas.Panel.Loader
import PollAtlas.Panel.Selection
import PollAtlas.Poll.Date
import PollAtlas.Poll.Detail
import PollAtlas.Poll.Feed
import PollAtlas.Poll.Latest
import PollAtlas.Poll.Observation
import PollAtlas.Region.Canonical
import PollAtlas.Region.Code
import PollAtlas.Region.Param
import PollAtlas.Region.Province
import PollAtlas.Service.Endpoint
import PollAtlas.Text.Blank
import PollAtlas.Text.Capital
import PollAtlas.Text.CharClass
import PollAtlas.Text.Composition
import PollAtlas.Text.Mark
import PollAtlas.Text.NormalForm
import PollAtlas.Text.Quoted
import PollAtlas.Text.Split
import PollAtlas.Text.Unassigned
import PollAtlas.Text.Unprintable
import PollAtlas.Proofs.Boundary.Centroid
import PollAtlas.Proofs.Boundary.Drawing
import PollAtlas.Proofs.Boundary.Fit
import PollAtlas.Proofs.Boundary.Invariance
import PollAtlas.Proofs.Boundary.Outline
import PollAtlas.Proofs.Boundary.ReadBack
import PollAtlas.Proofs.Command.Elections
import PollAtlas.Proofs.Poll.Calendar
import PollAtlas.Proofs.Poll.Chronology
import PollAtlas.Proofs.Poll.Freshness
import PollAtlas.Proofs.Poll.Grouping
import PollAtlas.Proofs.Poll.Lookup
import PollAtlas.Proofs.Poll.Margin
import PollAtlas.Proofs.Poll.Provinces
import PollAtlas.Proofs.Poll.NullFields
import PollAtlas.Proofs.Poll.ReadBack
import PollAtlas.Proofs.Poll.SampleSize
import PollAtlas.Proofs.Poll.ShownDate
import PollAtlas.Proofs.Poll.Tolerance
import PollAtlas.Proofs.Election.CodeMaster
import PollAtlas.Proofs.Election.Dominance
import PollAtlas.Proofs.Election.Idempotence
import PollAtlas.Proofs.Election.Listing
import PollAtlas.Proofs.Election.Matchups
import PollAtlas.Proofs.Election.Presentation
import PollAtlas.Proofs.Election.ReadBack
import PollAtlas.Proofs.Election.Representative
import PollAtlas.Proofs.Election.Slots
import PollAtlas.Proofs.Election.Spellings
import PollAtlas.Proofs.Panel.EmptyCode
import PollAtlas.Proofs.Panel.LatestRequest
import PollAtlas.Proofs.Panel.Streams
import PollAtlas.Proofs.Region.Agreement
import PollAtlas.Proofs.Region.Derivation
import PollAtlas.Proofs.Service.Parameters
import PollAtlas.Proofs.Service.RegionAddress
import PollAtlas.Proofs.Poll.FullDate
