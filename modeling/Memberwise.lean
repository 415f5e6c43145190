import Memberwise.Proofs.Member.Names
import Memberwise.Session
import Memberwise.TypeExpr.Build
import Memberwise.Proofs.Plan.Planning
import Memberwise.Proofs.Plan.Conformance
import Memberwise.Proofs.Member.Describable
import Memberwise.Proofs.Plan.Refusal
import Memberwise.Proofs.World.Frame
import Memberwise.Proofs.Mapper.Frame
import Memberwise.Proofs.Mapper.Transfer
import Memberwise.Proofs.Mapper.Pool
import Memberwise.Proofs.Session.Frame
import Memberwise.Proofs.Session.History
import Memberwise.Proofs.Session.Cache
import Memberwise.Proofs.Conversion.History
import Memberwise.Proofs.Member.Inheritance
import Memberwise.Proofs.Mapper.Frozen
import Memberwise.Proofs.Mapper.Presence
import Memberwise.Proofs.Mapper.Agreement
import Memberwise.Proofs.Plan.Interference
import Memberwise.Proofs.Member.Stated
import Memberwise.Proofs.Mapper.Repetition
import Memberwise.Proofs.Plan.Faults
import Memberwise.Proofs.Mapper.RoundTrip
import Memberwise.Proofs.Mapper.Order
import Memberwise.Proofs.Class.Respelling
import Memberwise.Proofs.Member.Respelling
import Memberwise.Proofs.Plan.Respelling
import Memberwise.Proofs.Plan.Precedence
import Memberwise.Proofs.Conversion.Outcome
import Memberwise.Proofs.Conversion.Instance
import Memberwise.Proofs.Mapper.Copying
import Memberwise.Proofs.Schema.Respelling
import Memberwise.Proofs.Mapper.Respelling
import Memberwise.Proofs.Conversion.Numbers
import Memberwise.Proofs.Conversion.Moments
import Memberwise.Proofs.Mapper.Collections
import Memberwise.Proofs.Registry.History
import Memberwise.Proofs.Member.PseudoFields
import Memberwise.Proofs.Member.Parameters
import Memberwise.Proofs.Member.Normal
import Memberwise.Proofs.Mapper.Shortcut
import Memberwise.Proofs.Mapper.Creation
