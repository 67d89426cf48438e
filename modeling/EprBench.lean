import EprBench.Balance
import EprBench.Counter
import EprBench.DelayGenerator
import EprBench.Digitizer.Converter
import EprBench.Fit.Commands
import EprBench.Gaussmeter
import EprBench.Proofs.LevelMonitor
import EprBench.Line.Inspector
import EprBench.Magnet.Commands
import EprBench.Magnet.Direct
import EprBench.MoistureMeter
import EprBench.Proofs.RecordLengths
import EprBench.Scope.Tektronix
import EprBench.Supply.HighVoltage
import EprBench.Supply.Multichannel
import EprBench.Supply.Precision
import EprBench.Switches
import EprBench.Synthesizer
import EprBench.Table.Commands
import EprBench.Proofs.Spectrum
import EprBench.Temperature.Lakeshore
import EprBench.Temperature.Monitor
import EprBench.Temperature.Oxford
import EprBench.Temperature.Stanford
import EprBench.Proofs.Pulser.Periods
import EprBench.Proofs.Pulser.Rehearsals
import EprBench.Proofs.Pulser.Replays
import EprBench.Proofs.Pulser.Renewal
import EprBench.Proofs.Magnet.Searches
import EprBench.Proofs.Waveform.Sessions
import EprBench.Proofs.Pulser.Snapshots
import EprBench.Proofs.Pulser.RunLengths
import EprBench.Proofs.Pulser.ShortGaps
import EprBench.Proofs.Pulser.OwnRows
import EprBench.Proofs.Magnet.Nearness
import EprBench.Proofs.Pulser.Refusals
import EprBench.Proofs.Pulser.Cycles
import EprBench.Proofs.Waveform.Intervals
import EprBench.Proofs.Digitizer.Integrals
import EprBench.Proofs.Digitizer.Panels
import EprBench.Proofs.Waveform.Places
import EprBench.Proofs.Waveform.Ranges
import EprBench.Proofs.Waveform.Phases
import EprBench.Proofs.Bridge.Dials
import EprBench.Proofs.Bridge.Positions
import EprBench.Proofs.LockIn
import EprBench.Proofs.Temperature.SetPoints
import EprBench.Proofs.Refrigerator
import EprBench.Proofs.Plot
import EprBench.Proofs.FileNames
