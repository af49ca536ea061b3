import CronPreview.Schedule.Basic
import CronPreview.Json.Reader
import CronPreview.Journal.Schedule
import CronPreview.Calendar.Notation
import CronPreview.Journal.Search
import CronPreview.Description.Summary
import CronPreview.Journal.Description
import CronPreview.Service.Endpoint
import CronPreview.CommandLine.Program
import CronPreview.Settings.Sources
import CronPreview.Main
import CronPreview.Proofs.Calendar.Clock
import CronPreview.Proofs.Schedule.FirstMatch
import CronPreview.Proofs.Outcome
import CronPreview.Proofs.Schedule.Runs
import CronPreview.Proofs.Field.Grammar
import CronPreview.Proofs.Field.Reading
import CronPreview.Proofs.Field.Denotation
import CronPreview.Proofs.Calendar.Weekdays
import CronPreview.Proofs.Schedule.Grammar
import CronPreview.Proofs.Schedule.Parsed
import CronPreview.Proofs.Schedule.Horizon
import CronPreview.Proofs.Schedule.Attribution
import CronPreview.Proofs.Schedule.Rendering
import CronPreview.Proofs.Description.Decoding
import CronPreview.Proofs.Service.Replies
import CronPreview.Proofs.Schedule.Equivalence
import CronPreview.Proofs.Description.Labels
import CronPreview.Proofs.Service.Matching
import CronPreview.Proofs.CommandLine.Preview
import CronPreview.Proofs.Field.Walk
import CronPreview.Proofs.Field.Lists
import CronPreview.Proofs.Schedule.Paging
import CronPreview.Proofs.Field.Spelling
import CronPreview.Proofs.Schedule.Spelling
import CronPreview.Proofs.Schedule.Monotone
import CronPreview.Proofs.Schedule.WallClock
import CronPreview.Proofs.Description.Daily
import CronPreview.Proofs.Description.Readers
import CronPreview.Proofs.Field.Order
import CronPreview.Proofs.Field.Wildcard
import CronPreview.Proofs.Description.Spacing
