import Courier.Config.Environment
import Courier.Config.File
import Courier.Json.Choice
import Courier.Rehearsal.Call
import Courier.Rehearsal.Settings
import Courier.Rehearsal.Veil
import Courier.Proofs.Config.Defaults
import Courier.Proofs.Config.Pointwise
import Courier.Proofs.Config.Variables
import Courier.Proofs.Listener.Account
import Courier.Proofs.NotFound.Call
import Courier.Proofs.RoundTrip
import Courier.Proofs.Retry.Answers
import Courier.Proofs.Retry.Budget
import Courier.Proofs.Retry.Data
import Courier.Proofs.Retry.Delivery
import Courier.Proofs.Status.Deferral
import Courier.Proofs.Status.Selection
import Courier.Proofs.Chunks
import Courier.Proofs.Demand.Call
import Courier.Proofs.Sensitive.Call
import Courier.Proofs.Target
import Courier.Proofs.Appended
import Courier.Proofs.Config.Refused
import Courier.Proofs.Interceptor.Attempts
import Courier.Proofs.Interceptor.Credentials
import Courier.Proofs.Interceptor.Order
import Courier.Proofs.Listener.Failures
import Courier.Proofs.Retry.Doubling
import Courier.Proofs.Rewriting
import Courier.Proofs.Status.Delay
import Courier.Proofs.Subscriptions
