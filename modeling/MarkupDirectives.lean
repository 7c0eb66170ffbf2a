import MarkupDirectives.Main
import MarkupDirectives.Proofs.Render.Failure
import MarkupDirectives.Proofs.Render.Splicing
import MarkupDirectives.Proofs.Settings.Reachability
import MarkupDirectives.Proofs.Settings.Listing
import MarkupDirectives.Proofs.Locator.Folding
import MarkupDirectives.Proofs.Directive.Writing
import MarkupDirectives.Proofs.Locator.Completion
import MarkupDirectives.Proofs.Fragment.Expansion
import MarkupDirectives.Proofs.Settings.Keys
import MarkupDirectives.Proofs.Files.Access
import MarkupDirectives.Proofs.Settings.Loading
import MarkupDirectives.Proofs.Command.Effects
import MarkupDirectives.Proofs.Scope.Failure
import MarkupDirectives.Proofs.Directive.Grammar
import MarkupDirectives.Proofs.Locator.Extents
import MarkupDirectives.Proofs.Locator.Errors
import MarkupDirectives.Proofs.Locator.Priority
import MarkupDirectives.Proofs.Locator.Unwrapping
import MarkupDirectives.Proofs.Text.Positions
import MarkupDirectives.Proofs.Text.Entities
import MarkupDirectives.Proofs.Fragment.Registration
import MarkupDirectives.Proofs.Settings.WellFormed
import MarkupDirectives.Proofs.Text.Cuts
import MarkupDirectives.Proofs.Scope.Loop
import MarkupDirectives.Proofs.Directive.Offsets
import MarkupDirectives.Proofs.Text.PositionCuts
import MarkupDirectives.Proofs.Locator.States
import MarkupDirectives.Proofs.Locator.Progress
import MarkupDirectives.Proofs.Render.Cuts
