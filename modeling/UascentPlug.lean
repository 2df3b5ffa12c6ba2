import UascentPlug.Interleaving
import UascentPlug.Commands
import UascentPlug.Indication
import UascentPlug.Bl0937.Schedule
import UascentPlug.Bl0937.Accuracy
import UascentPlug.Bl0937.Attribution
import UascentPlug.Metering.Changes
import UascentPlug.Metering.FirstReading
import UascentPlug.Energy.Report
import UascentPlug.Energy.Lifetime
import UascentPlug.Energy.Cadence
import UascentPlug.Energy.Wear
import UascentPlug.Energy.FailedInit
import UascentPlug.Energy.Overflow
import UascentPlug.Firmware.Accuracy
import UascentPlug.Firmware.Energy
import UascentPlug.Firmware.Indicators
import UascentPlug.Firmware.Isolation
import UascentPlug.Firmware.Life
import UascentPlug.Firmware.MeterFailure
import UascentPlug.Firmware.Ranges
import UascentPlug.Firmware.Timing
import UascentPlug.Preemption.Atomic
import UascentPlug.Preemption.Blink
import UascentPlug.Firmware.Int64
