import TextTemplate.Data
import TextTemplate.Engine.Description
import TextTemplate.Error.Snippet
import TextTemplate.Escaper
import TextTemplate.Literal
import TextTemplate.Proofs.Grammar
import TextTemplate.Proofs.Headings
import TextTemplate.Proofs.Machine
import TextTemplate.Proofs.Names
import TextTemplate.Proofs.Parsing
import TextTemplate.Proofs.Caching
import TextTemplate.Proofs.Faults
import TextTemplate.Proofs.Places
import TextTemplate.Proofs.Composition
import TextTemplate.Proofs.Diagnosis
import TextTemplate.Proofs.ErrorPlaces
import TextTemplate.Proofs.Expansion
import TextTemplate.Proofs.Splicing
import TextTemplate.Proofs.Tags
import TextTemplate.Proofs.Limits
import TextTemplate.Proofs.Cycles
import TextTemplate.Proofs.Bounds
import TextTemplate.Proofs.Completions
import TextTemplate.Proofs.FirstFault
import TextTemplate.Proofs.Capacity
import TextTemplate.Proofs.Provenance
import TextTemplate.Proofs.Lookups
import TextTemplate.Proofs.Dedenting
import TextTemplate.Proofs.Canonical
import TextTemplate.Proofs.Folding
import TextTemplate.Proofs.DataBindings
import TextTemplate.Proofs.Accounting
import TextTemplate.Proofs.Escaping
import TextTemplate.Proofs.Replacing
import TextTemplate.Proofs.Fields
import TextTemplate.Proofs.JsonLiterals
import TextTemplate.Proofs.LineBreaks
import TextTemplate.Proofs.Snippets
import TextTemplate.Proofs.Rows
import TextTemplate.Proofs.Tiling
import TextTemplate.Proofs.LetterCase
