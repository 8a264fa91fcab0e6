import ValidatorAlarm.Assembly
import ValidatorAlarm.Delivery.MailAddress
import ValidatorAlarm.Http
import ValidatorAlarm.LogFiles
import ValidatorAlarm.Proofs.Appointment.Week
import ValidatorAlarm.Proofs.Assembly.AllOrNothing
import ValidatorAlarm.Proofs.Closing.Shutdown
import ValidatorAlarm.Proofs.Delivery.Protocol
import ValidatorAlarm.Proofs.Delivery.Transmission
import ValidatorAlarm.Proofs.Identity.Address
import ValidatorAlarm.Proofs.Identity.Grammar
import ValidatorAlarm.Proofs.Identity.Spelling
import ValidatorAlarm.Proofs.Identity.Typos
import ValidatorAlarm.Proofs.Json.Meaning
import ValidatorAlarm.Proofs.Json.Number
import ValidatorAlarm.Proofs.Message.Stored
import ValidatorAlarm.Proofs.Monitor.Cancellation
import ValidatorAlarm.Proofs.Monitor.CycleFrame
import ValidatorAlarm.Proofs.Monitor.Markup
import ValidatorAlarm.Proofs.Monitor.PageLinks
import ValidatorAlarm.Proofs.Network.Ratings
import ValidatorAlarm.Proofs.Network.Round
import ValidatorAlarm.Proofs.Network.StakedKeys
import ValidatorAlarm.Proofs.Poller.Schedule
import ValidatorAlarm.Proofs.Rating.Monotone
import ValidatorAlarm.Proofs.SelfCheck.AllClear
import ValidatorAlarm.Proofs.SelfCheck.Duties
import ValidatorAlarm.Proofs.SelfCheck.TargetMinutes
import ValidatorAlarm.Proofs.Snooze.RateLimit
import ValidatorAlarm.Proofs.Text.Base64
import ValidatorAlarm.ScriptedWork
