import Dialogue.Main
import Dialogue.Script.Description
import Dialogue.Proofs.StopPoint
import Dialogue.Proofs.Action
import Dialogue.Proofs.Run
import Dialogue.Proofs.Callers
import Dialogue.Proofs.Turn
import Dialogue.Proofs.Continuation
import Dialogue.Proofs.Persistence
import Dialogue.Proofs.Uninterrupted
import Dialogue.Proofs.Shape
import Dialogue.Proofs.Integrity
import Dialogue.Proofs.Json.Canonical
import Dialogue.Proofs.Coffee.Course
import Dialogue.Proofs.Coffee.Session
import Dialogue.Proofs.Coffee.Order
import Dialogue.Proofs.Trail
import Dialogue.Proofs.Entry
import Dialogue.Proofs.Limit
import Dialogue.Proofs.Output
import Dialogue.Proofs.Forward
import Dialogue.Proofs.Registration
import Dialogue.Proofs.Refusal
import Dialogue.Proofs.Restoration
import Dialogue.Proofs.Keys
import Dialogue.Proofs.Isolation
import Dialogue.Proofs.Resolution
import Dialogue.Proofs.Rerooting
import Dialogue.Proofs.Budget
import Dialogue.Proofs.Depth
import Dialogue.Proofs.Jump
