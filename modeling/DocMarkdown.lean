import DocMarkdown.Text.Blank
import DocMarkdown.Text.Lines
import DocMarkdown.Text.Escape
import DocMarkdown.Text.Unassigned
import DocMarkdown.Text.Quoted
import DocMarkdown.Kind
import DocMarkdown.Reference
import DocMarkdown.Resolver
import DocMarkdown.Tag
import DocMarkdown.Options
import DocMarkdown.Fault
import DocMarkdown.Log
import DocMarkdown.Outcome
import DocMarkdown.Node.Basic
import DocMarkdown.Node.Fold
import DocMarkdown.Node.Equality
import DocMarkdown.Node.Trim
import DocMarkdown.Node.Traversal
import DocMarkdown.Indentation
import DocMarkdown.Writer
import DocMarkdown.Program
import DocMarkdown.Script
import DocMarkdown.Dialect
import DocMarkdown.Renderer.Basic
import DocMarkdown.Renderer.Rule
import DocMarkdown.Renderer.Equations
import DocMarkdown.Render
import DocMarkdown.Session
import DocMarkdown.Proofs.Writer.Scribe
import DocMarkdown.Proofs.Writer.Frame
import DocMarkdown.Proofs.Writer.Refinement
import DocMarkdown.Proofs.Script.Effect
import DocMarkdown.Proofs.Node.Trimming
import DocMarkdown.Proofs.Node.Links
import DocMarkdown.Proofs.Script.Gathering
import DocMarkdown.Proofs.Render.Faults
import DocMarkdown.Proofs.Render.ReadBack
import DocMarkdown.Proofs.Render.Markup
import DocMarkdown.Proofs.Render.Isolation
import DocMarkdown.Proofs.Script.View
import DocMarkdown.Proofs.Render.Blocks
import DocMarkdown.Proofs.Render.NoteBox
import DocMarkdown.Proofs.Script.Frame
import DocMarkdown.Proofs.Session.Walk
import DocMarkdown.Proofs.Session.Emphasis
import DocMarkdown.Proofs.Session.PlainText
import DocMarkdown.Proofs.Session.Label
import DocMarkdown.Proofs.Script.Congruence
import DocMarkdown.Proofs.Script.Equivalence
import DocMarkdown.Proofs.Render.Strictness
import DocMarkdown.Proofs.Render.Resolution
import DocMarkdown.Proofs.Text.Line
import DocMarkdown.Proofs.Text.OnePass
import DocMarkdown.Proofs.Text.BareRun
import DocMarkdown.Proofs.Text.Escaped
import DocMarkdown.Proofs.Script.Inline
import DocMarkdown.Proofs.Render.Table
import DocMarkdown.Proofs.Render.OneLine
import DocMarkdown.Proofs.Render.Bars
import DocMarkdown.Proofs.Render.BareRuns
import DocMarkdown.Proofs.Render.Extension
import DocMarkdown.Proofs.Writer.BlankLine
import DocMarkdown.Proofs.Writer.Nesting
import DocMarkdown.Proofs.Render.ParagraphEnds
import DocMarkdown.Proofs.Render.LineEnds
import DocMarkdown.Proofs.Render.Warnings
import DocMarkdown.Proofs.Reference.LookupKey
import DocMarkdown.Proofs.Node.Transcript
