import Conventions.CommandLine.Help
import Conventions.CommandLine.Outcome
import Conventions.Main
import Conventions.Proofs.Aggregate
import Conventions.Proofs.Branch
import Conventions.Proofs.Casing
import Conventions.Proofs.Commit
import Conventions.Proofs.CommitParams
import Conventions.Proofs.Config
import Conventions.Proofs.Consistency
import Conventions.Proofs.CurrentBranch
import Conventions.Proofs.DefaultRules
import Conventions.Proofs.Disk
import Conventions.Proofs.Entries
import Conventions.Proofs.Escape
import Conventions.Proofs.Except
import Conventions.Proofs.Extension
import Conventions.Proofs.Glob
import Conventions.Proofs.Grading
import Conventions.Proofs.Header
import Conventions.Proofs.HeaderLine
import Conventions.Proofs.HeadingParts
import Conventions.Proofs.Hook
import Conventions.Proofs.Ignore
import Conventions.Proofs.LineEnds
import Conventions.Proofs.LineNumber
import Conventions.Proofs.Lines
import Conventions.Proofs.Lookup
import Conventions.Proofs.Matcher
import Conventions.Proofs.MessageFile
import Conventions.Proofs.NodeSuffix
import Conventions.Proofs.Override
import Conventions.Proofs.Place
import Conventions.Proofs.Project
import Conventions.Proofs.Refusal
import Conventions.Proofs.Regrade
import Conventions.Proofs.Relaxation
import Conventions.Proofs.Report
import Conventions.Proofs.Representatives
import Conventions.Proofs.RuleDrafts
import Conventions.Proofs.RuleSet
import Conventions.Proofs.Scalar
import Conventions.Proofs.SceneHeader
import Conventions.Proofs.Schema
import Conventions.Proofs.SchemaMapping
import Conventions.Proofs.Script
import Conventions.Proofs.Segments
import Conventions.Proofs.Separator
import Conventions.Proofs.Sources
import Conventions.Proofs.Span
import Conventions.Proofs.Stripped
import Conventions.Proofs.SuffixDetail
import Conventions.Proofs.Template
import Conventions.Proofs.TemplateGrammar
import Conventions.Proofs.Title
import Conventions.Proofs.TrackedFiles
import Conventions.Proofs.Validation
import Conventions.Proofs.Walk
import Conventions.Proofs.Workflow
