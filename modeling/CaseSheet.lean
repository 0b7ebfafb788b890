import CaseSheet.Main
import CaseSheet.Proofs.Exchange
import CaseSheet.Proofs.Headers
import CaseSheet.Proofs.Verdict
import CaseSheet.Proofs.Run
import CaseSheet.Proofs.Token
import CaseSheet.Proofs.Composition
import CaseSheet.Proofs.Scope
import CaseSheet.Proofs.FileRuns
import CaseSheet.Proofs.Row
import CaseSheet.Proofs.Csv
import CaseSheet.Proofs.Columns
import CaseSheet.Proofs.Yaml.Source
import CaseSheet.Proofs.Yaml.Quoted
import CaseSheet.Proofs.Yaml.Plain
import CaseSheet.Proofs.Yaml.Literal
import CaseSheet.Proofs.Yaml.Token
import CaseSheet.Proofs.Yaml.Scalar
import CaseSheet.Proofs.Yaml.Lines
import CaseSheet.Proofs.Yaml.Node
import CaseSheet.Proofs.Yaml.Sheet
import CaseSheet.Proofs.Digits
import CaseSheet.Proofs.Calendar
import CaseSheet.Proofs.Fields
import CaseSheet.Proofs.Files.Tree
import CaseSheet.Proofs.Files.Store
import CaseSheet.Proofs.Files.Parent
import CaseSheet.Proofs.Saved
import CaseSheet.Proofs.SavedAgain
import CaseSheet.Proofs.Export
import CaseSheet.Proofs.Json.Token
import CaseSheet.Proofs.Json.Value
import CaseSheet.Proofs.ExportJson
import CaseSheet.Proofs.Url.Server
import CaseSheet.Proofs.Url.Plain
import CaseSheet.Proofs.Url.Below
import CaseSheet.Proofs.ConfigSearch
import CaseSheet.Proofs.Discovery
import CaseSheet.Proofs.Search
import CaseSheet.Proofs.DigitRuns
import CaseSheet.Proofs.Clauses
import CaseSheet.Proofs.Step
import CaseSheet.Proofs.Json.OneLine
import CaseSheet.Proofs.Json.Grammar
import CaseSheet.Proofs.StepBody
import CaseSheet.Proofs.Braces
import CaseSheet.Proofs.Rollup
import CaseSheet.Proofs.Layers
import CaseSheet.Proofs.Yaml.Mapping
import CaseSheet.Proofs.SampleSheet
import CaseSheet.Proofs.Capital
import CaseSheet.Proofs.MethodName
