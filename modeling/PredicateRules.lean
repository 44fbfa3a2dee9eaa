import PredicateRules.Session
import PredicateRules.Grammar.Ruleset
import PredicateRules.Value.Document
import PredicateRules.Context.Activity
import PredicateRules.Proofs.ModelHistory
import PredicateRules.Proofs.Placeholders
import PredicateRules.Proofs.Inheritance
import PredicateRules.Proofs.Nesting
import PredicateRules.Proofs.Inference.Limit
import PredicateRules.Proofs.Inference.VisibleValues
import PredicateRules.Proofs.Inference.Circles
import PredicateRules.Proofs.Printing.Outline
import PredicateRules.Proofs.Cutting.Specifier
import PredicateRules.Proofs.Substitution
import PredicateRules.Proofs.Inference.Firing
import PredicateRules.Proofs.Outranking
import PredicateRules.Proofs.Progress.Termination
import PredicateRules.Proofs.Printing.ReadingBack
import PredicateRules.Proofs.Printing.Data
import PredicateRules.Proofs.Printing.WholePath
import PredicateRules.Proofs.Printing.Formula
import PredicateRules.Proofs.Folding.Comparison
import PredicateRules.Proofs.Evaluation.Resolution
import PredicateRules.Proofs.Flattening
import PredicateRules.Proofs.Builtin.Total
import PredicateRules.Proofs.Weight
import PredicateRules.Proofs.Shadowing
import PredicateRules.Proofs.Inference.Depth
import PredicateRules.Proofs.Value.SetAlgebra
import PredicateRules.Proofs.Value.SetHistory
import PredicateRules.Proofs.Evaluation.Coherence
import PredicateRules.Proofs.Builtin.Extreme
import PredicateRules.Proofs.Scanner.LongestNumeral
import PredicateRules.Proofs.Scanner.Position
import PredicateRules.Proofs.Scanner.Alternative
import PredicateRules.Proofs.Value.SetHistory
