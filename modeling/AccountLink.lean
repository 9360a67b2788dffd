import AccountLink.Main
import AccountLink.Http.Client
import AccountLink.Cell.Step
import AccountLink.Text.Lines
import AccountLink.Proofs.Cell.Refines
import AccountLink.Proofs.Account.Settled
import AccountLink.Proofs.Session.Overlap
import AccountLink.Proofs.Session.Outlets
import AccountLink.Proofs.Program.Tokens
import AccountLink.Proofs.Http.Scripted
import AccountLink.Proofs.Http.Routes
import AccountLink.Proofs.Wire.RoundTrip
import AccountLink.Proofs.Program.Override
import AccountLink.Proofs.Http.Tokens
import AccountLink.Proofs.Identity
import AccountLink.Proofs.Session.Causes
import AccountLink.Proofs.Session.Sharing
import AccountLink.Proofs.Json.Places
import AccountLink.Proofs.Wire.Lists
import AccountLink.Proofs.Wire.Amounts
import AccountLink.Proofs.Http.Balances
import AccountLink.Proofs.Json.Ordered
import AccountLink.Proofs.Account.Printed
import AccountLink.Proofs.Url.Users
import AccountLink.Proofs.Http.Bodies
import AccountLink.Proofs.Account.Patches
import AccountLink.Proofs.Settings.BaseUrls
import AccountLink.Proofs.Settings.Variables
