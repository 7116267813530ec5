import Forte.SpecBuilder.Reference
import Forte.SpecBuilder.WithSpec
import Forte.Core.FunctionBlock
import Forte.Timer.TimeOut
import Forte.Modbus.Client
import Forte.Modbus.Interleaving
import Forte.Modbus.PollList
import Forte.EmBrick.Master
import Forte.Arch.ForteInstance
import Forte.Modbus.Protocol
import Forte.Arch.Handles
import Forte.Modbus.ConnectionEvent
