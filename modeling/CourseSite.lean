import CourseSite.Main
import CourseSite.Proofs.Content.Numbering
import CourseSite.Proofs.Site.History
import CourseSite.Proofs.Site.Turn
import CourseSite.Proofs.Site.Barrier
import CourseSite.Proofs.Site.Dispatch
import CourseSite.Proofs.Site.Progress
import CourseSite.Proofs.Site.Failure
import CourseSite.Proofs.Site.Carrying
import CourseSite.Proofs.Site.Fragments
import CourseSite.Proofs.Site.Aggregate
import CourseSite.Proofs.Files.Writing
import CourseSite.Proofs.Site.Plan
import CourseSite.Proofs.Site.Output
import CourseSite.Proofs.Site.Account
import CourseSite.Proofs.Directive.Parse
import CourseSite.Proofs.Directive.Concatenation
import CourseSite.Proofs.Directive.Escaping
import CourseSite.Proofs.Directive.Refusal
import CourseSite.Proofs.Content.Structure
import CourseSite.Proofs.Content.Addresses
import CourseSite.Proofs.Content.Acceptance
import CourseSite.Proofs.Site.Confinement
import CourseSite.Proofs.Directive.Inclusion
import CourseSite.Proofs.Site.ErrorLines
import CourseSite.Proofs.Site.Separation
import CourseSite.Proofs.Cache.Store
import CourseSite.Proofs.Site.Caching
import CourseSite.Proofs.Content.Splitting
import CourseSite.Proofs.Directive.Rebinding
import CourseSite.Proofs.Directive.Regularity
import CourseSite.Proofs.Directive.Uniformity
import CourseSite.Proofs.Directive.Insignificance
import CourseSite.Proofs.Content.Heading
import CourseSite.Proofs.Settings.References
import CourseSite.Proofs.Settings.Layers
import CourseSite.Proofs.Directive.Recasing
import CourseSite.Proofs.Site.Meeting
import CourseSite.Proofs.Cache.Sharing
import CourseSite.Proofs.Directive.Enclosure
import CourseSite.Proofs.Directive.Display
import CourseSite.Proofs.Directive.Conversion
import CourseSite.Proofs.Site.Tagging
import CourseSite.Proofs.Directive.Insertion
