import PpmlIot.Signecc.SigningService
import PpmlIot.Signecc.ReceiveBounds
import PpmlIot.Signecc.ParseAddrSafety
import PpmlIot.Signecc.ParseAddrRefinement
import PpmlIot.Signecc.AddressFormat
import PpmlIot.Signecc.CommandRoundTrip
import PpmlIot.Signecc.ReplyRoundTrip
import PpmlIot.Signecc.PanArgument
import PpmlIot.Signecc.HeaderFailures
import PpmlIot.Signecc.ReplyRouting
import PpmlIot.Signecc.Node
import PpmlIot.Signecc.Network
import PpmlIot.Signecc.SequenceNumbers
import PpmlIot.Signecc.Console
import PpmlIot.Signecc.Conversation
import PpmlIot.Signecc.Ifconfig
import PpmlIot.Signecc.Interrupts
import PpmlIot.Signecc.InterruptAccounting
import PpmlIot.Host.ProvideKeyAndVerify
import PpmlIot.Sensors.LogRoundTrip
import PpmlIot.Sensors.PowerLoss
import PpmlIot.Sensors.Freshness
import PpmlIot.Sensors.DecimalDisplay
import PpmlIot.Sensors.ShownNumbers
import PpmlIot.Stm32.LineFormat
import PpmlIot.Stm32.SerialSession
import PpmlIot.Stm32.KeyDisclosure
import PpmlIot.Stm32.MessageDigest
import PpmlIot.Stm32.Repetition
import PpmlIot.SigningFailures
