import CommandDocs.Main
import CommandDocs.Proofs.CommandLine.Endings
import CommandDocs.Proofs.Corpus.Accounting
import CommandDocs.Proofs.Corpus.CompletionRows
import CommandDocs.Proofs.Corpus.FailedRun
import CommandDocs.Proofs.Corpus.Fallback
import CommandDocs.Proofs.Corpus.GenerateRun
import CommandDocs.Proofs.Corpus.IndexRun
import CommandDocs.Proofs.Corpus.InputsKept
import CommandDocs.Proofs.Corpus.NameTable
import CommandDocs.Proofs.Corpus.Offers
import CommandDocs.Proofs.Corpus.PassThrough
import CommandDocs.Proofs.Corpus.Regeneration
import CommandDocs.Proofs.Corpus.Scanning
import CommandDocs.Proofs.Corpus.SourcesAgree
import CommandDocs.Proofs.Corpus.Suffixes
import CommandDocs.Proofs.Corpus.Trace
import CommandDocs.Proofs.File.Arguments
import CommandDocs.Proofs.File.Spelling
import CommandDocs.Proofs.Hover
import CommandDocs.Proofs.Log.Listing
import CommandDocs.Proofs.Page.Body
import CommandDocs.Proofs.Page.ExampleBehindTable
import CommandDocs.Proofs.Page.LineEndings
import CommandDocs.Proofs.Page.LineNumbers
import CommandDocs.Proofs.Page.LinksBlock
import CommandDocs.Proofs.Page.LinksLine
import CommandDocs.Proofs.Page.Locality
import CommandDocs.Proofs.Page.MissingTitle
import CommandDocs.Proofs.Page.OpeningForms
import CommandDocs.Proofs.Page.RoundTrip
import CommandDocs.Proofs.Page.Shape
import CommandDocs.Proofs.Page.TableRows
import CommandDocs.Proofs.Record.Acceptance
