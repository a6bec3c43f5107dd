import Proximity.Ats
import Proximity.Config.Stored
import Proximity.Crc.Serial
import Proximity.Proofs.Crc.Serial
import Proximity.Proofs.Crc.Repeated
import Proximity.Reader
import Proximity.ScriptedCard
import Proximity.Proofs.Detection.Burst
import Proximity.Proofs.Detection.OddWeight
import Proximity.Proofs.Detection.TwoBits
import Proximity.Proofs.Detection.Affine
import Proximity.Proofs.Frame.Image
import Proximity.Proofs.Session.Outcome
import Proximity.Proofs.Session.Delivery
import Proximity.Proofs.Reader.Numbering
import Proximity.Proofs.Reader.Transcript
import Proximity.Proofs.Frame.Padding
import Proximity.Proofs.Session.Surplus
import Proximity.Proofs.Session.Atomicity
import Proximity.Proofs.Session.Buffers
import Proximity.Checked
import Proximity.Proofs.Session.Checked
import Proximity.Proofs.Session.Capacity
import Proximity.Proofs.Attempt.Alike
import Proximity.Proofs.Reader.Indifference
import Proximity.Proofs.Link.Forwarding
import Proximity.Proofs.Hex.RoundTrip
import Proximity.Proofs.Log.Lines
import Proximity.Proofs.Reader.Log
import Proximity.Proofs.Setup.Settings
import Proximity.Checked.Ats
import Proximity.Proofs.Ats.Checked
import Proximity.Proofs.Ats.Fields
import Proximity.Proofs.Ats.Grammar
import Proximity.Proofs.Hex.Language
import Proximity.Proofs.Session.Deselect
import Proximity.Proofs.Session.Apdu
import Proximity.Proofs.Attempt.TooShort
import Proximity.Proofs.Reader.TooShort
import Proximity.Proofs.Ats.Rejection
import Proximity.Proofs.Hex.Reformatting
import Proximity.Proofs.WaitingTime.Extended
import Proximity.Proofs.Reader.Waits
import Proximity.Proofs.Link.Playing
