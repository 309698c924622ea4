import RequestCatalog.Api.Sending
import RequestCatalog.Session
import RequestCatalog.Verbosity
import RequestCatalog.Proofs.Cascade
import RequestCatalog.Proofs.Levels
import RequestCatalog.Proofs.Writing
import RequestCatalog.Proofs.Answering
import RequestCatalog.Proofs.Walk
import RequestCatalog.Proofs.Reached
import RequestCatalog.Proofs.Served
import RequestCatalog.Proofs.Containment
import RequestCatalog.Proofs.ProperSettings
import RequestCatalog.Proofs.Inheritance.Authentication
import RequestCatalog.Proofs.Inheritance.Entries
import RequestCatalog.Proofs.Priority.Order
import RequestCatalog.Proofs.Priority.Sorting
import RequestCatalog.Proofs.Priority.Stability
import RequestCatalog.Proofs.Priority.Following
import RequestCatalog.Proofs.Duplicate
import RequestCatalog.Proofs.FolderDeletes
import RequestCatalog.Proofs.Integrity
import RequestCatalog.Proofs.Showing
import RequestCatalog.Proofs.FolderWrites
import RequestCatalog.Proofs.Priority.Arithmetic
import RequestCatalog.Proofs.Priority.Increasing
import RequestCatalog.Proofs.Priority.Compressing
import RequestCatalog.Proofs.FinitePriorities
import RequestCatalog.Proofs.Listing
import RequestCatalog.Proofs.Acting
import RequestCatalog.Proofs.Refusals
import RequestCatalog.Proofs.Ancestry
import RequestCatalog.Proofs.Workspaces
import RequestCatalog.Proofs.Isolation
import RequestCatalog.Proofs.Finding
import RequestCatalog.Proofs.GivingBack
import RequestCatalog.Proofs.LoopDetection
import RequestCatalog.Proofs.Sending
import RequestCatalog.Proofs.Replacing
import RequestCatalog.Proofs.Resending
import RequestCatalog.Proofs.Recording
import RequestCatalog.Proofs.PostOrder
import RequestCatalog.Proofs.Gathering
import RequestCatalog.Proofs.Nesting
import RequestCatalog.Proofs.Ascent
import RequestCatalog.Proofs.Deleting
import RequestCatalog.Proofs.Checking
import RequestCatalog.Proofs.Completing
import RequestCatalog.Proofs.Upserting
import RequestCatalog.Proofs.Clearing
import RequestCatalog.Proofs.Copying
import RequestCatalog.Proofs.Schema
import RequestCatalog.Proofs.Validating
import RequestCatalog.Proofs.Numeral.Rereading
import RequestCatalog.Proofs.Inheriting
import RequestCatalog.Proofs.Spelling
import RequestCatalog.Proofs.Addressing
import RequestCatalog.Proofs.Reporting
