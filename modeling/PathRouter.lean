import PathRouter.Settings.Load
import PathRouter.Proofs.Route.Match
import PathRouter.Proofs.Service.Build
import PathRouter.Proofs.Service.Dispatch
import PathRouter.Proofs.Regex.Groups
import PathRouter.Proofs.Route.Creation
import PathRouter.Proofs.Regex.Spans
import PathRouter.Proofs.Route.Captures
import PathRouter.Proofs.Regex.Enclosed
import PathRouter.Proofs.Route.Whole
import PathRouter.Proofs.Regex.Refusals
import PathRouter.Proofs.Regex.RefusalsBracket
import PathRouter.Proofs.Service.Sharing
import PathRouter.Proofs.Regex.Unopened
import PathRouter.Proofs.Route.Accepted
import PathRouter.Proofs.Route.Recompiled
import PathRouter.Proofs.Settings.Document
import PathRouter.Proofs.Settings.Overridden
import PathRouter.Proofs.Settings.Precedence
import PathRouter.Proofs.Service.Selection
import PathRouter.Proofs.Service.Failure
import PathRouter.Proofs.Settings.Page
import PathRouter.Proofs.Settings.AnyOrder
import PathRouter.Proofs.Settings.Substitution
import PathRouter.Proofs.Settings.Readers
import PathRouter.Proofs.Settings.Outcome
import PathRouter.Proofs.Http.Params
import PathRouter.Proofs.Http.Headers
import PathRouter.Proofs.Http.Edits
import PathRouter.Proofs.Service.Parameters
import PathRouter.Proofs.Route.Spelling
import PathRouter.Proofs.Route.Wildcards
import PathRouter.Proofs.Settings.Editing
import PathRouter.Proofs.Service.NotFound
import PathRouter.Proofs.Log.SettingUp
import PathRouter.Proofs.Route.Attempts
