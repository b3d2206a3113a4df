import RadioConnection.Drivers.BusyWait
import RadioConnection.Drivers.SpiDiscipline
import RadioConnection.Firmware.AirSystem
import RadioConnection.Firmware.LinkConsole
import RadioConnection.Firmware.RadioNodes
import RadioConnection.Firmware.Startup
import RadioConnection.Link.ClockShift
import RadioConnection.Link.Corruption
import RadioConnection.Link.Delivery
import RadioConnection.Link.Duplicates
import RadioConnection.Link.EventRings
import RadioConnection.Link.ExactlyOnce
import RadioConnection.Link.Exchanges
import RadioConnection.Link.ForeignFrames
import RadioConnection.Link.Progress
import RadioConnection.Link.RadioInStep
import RadioConnection.Link.Responses
import RadioConnection.Platform.Dio1Interrupts
import RadioConnection.Platform.SpiPins
import RadioConnection.Platform.UartFeed
import RadioConnection.Platform.UartRecovery
import RadioConnection.Radio.BatteryFields
import RadioConnection.Radio.ChannelBits
import RadioConnection.Radio.Failsafe
import RadioConnection.Radio.FrameSizes
import RadioConnection.Radio.Mapping
import RadioConnection.Radio.ParserBounds
import RadioConnection.Radio.RcCorruption
import RadioConnection.Radio.Resync
import RadioConnection.Radio.SbusPolling
import RadioConnection.Radio.TelemetryFairness
import RadioConnection.Radio.TelemetryFrames
import RadioConnection.Radio.TelemetryLedger
