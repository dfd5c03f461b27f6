import YaRiscV.Library.LittleEndian
import YaRiscV.Library.ByteStore
import YaRiscV.Utils.Bytes
import YaRiscV.Utils.Ranges
import YaRiscV.Emulator.Region
import YaRiscV.Emulator.Memory
import YaRiscV.Emulator.IrqLevel
import YaRiscV.Emulator.Plic.Layout
import YaRiscV.Emulator.Plic.Gateway
import YaRiscV.Library.Selection
import YaRiscV.Library.LevelGateway
import YaRiscV.Library.Transition
import YaRiscV.Emulator.Plic.Memory
import YaRiscV.Emulator.Machine
import YaRiscV.Emulator.Plic.Selection
import YaRiscV.Emulator.Plic.GatewayInvariant
import YaRiscV.Emulator.Plic.OutputInvariant
import YaRiscV.Emulator.Clint.Time
import YaRiscV.Emulator.Clint.Memory
import YaRiscV.Emulator.Clint.EpochRounding
import YaRiscV.Emulator.Uart.Queues
import YaRiscV.Emulator.Uart.Registers
import YaRiscV.Emulator.Syscon
import YaRiscV.Emulator.SpinLock
import YaRiscV.Emulator.Reservation
import YaRiscV.Emulator.Ram
import YaRiscV.Emulator.Guest
import YaRiscV.Emulator.Cpu.Instructions.Control
import YaRiscV.Emulator.Cpu.Instructions.LoadStore
import YaRiscV.Emulator.Cpu.Instructions.Amo
import YaRiscV.Emulator.Cpu.Instructions.System
import YaRiscV.Emulator.Cpu.Decode.Decode32
import YaRiscV.Emulator.Cpu.Run
import YaRiscV.Emulator.Cpu.InstructionOutcome
import YaRiscV.Emulator.Cpu.RegisterChange
import YaRiscV.Emulator.Cpu.RegisterInvariant
import YaRiscV.Emulator.Cpu.Reachable
import YaRiscV.Emulator.Cpu.ModifyPrivilege
import YaRiscV.Emulator.Cpu.TrapPrecision
import YaRiscV.Library.Revocation
import YaRiscV.Emulator.Confinement
import YaRiscV.Emulator.ReservationSlots
import YaRiscV.Emulator.MonitorOperations
import YaRiscV.Emulator.Cpu.ReservationHistory
import YaRiscV.Emulator.Cpu.PmpGrant
import YaRiscV.Emulator.Agreement
import YaRiscV.Emulator.GuestAgreement
import YaRiscV.Emulator.Cpu.Mediation
import YaRiscV.Emulator.Cpu.Isolation
import YaRiscV.Emulator.Plic.Quiescence
import YaRiscV.Emulator.Clint.TickHistory
import YaRiscV.Emulator.Uart.LoadEffects
import YaRiscV.Emulator.Cpu.FetchEffects
import YaRiscV.Emulator.Uart.Console
import YaRiscV.Emulator.Uart.ConsoleWake
import YaRiscV.Emulator.Cpu.SoftwareExternal
import YaRiscV.Emulator.Cpu.InterruptOrder
import YaRiscV.Emulator.Resolution
import YaRiscV.Emulator.Clint.Compare
import YaRiscV.Emulator.Cpu.TimerWires
import YaRiscV.Emulator.StoreFrame
import YaRiscV.Emulator.Cpu.AtomicFaults
import YaRiscV.Library.Latch
import YaRiscV.Emulator.Uart.View
import YaRiscV.Emulator.Uart.InterruptHistory
import YaRiscV.Library.Publication
import YaRiscV.Emulator.Uart.Operations
import YaRiscV.Emulator.Uart.InterruptRace
import YaRiscV.Emulator.Cpu.InstructionEffect
import YaRiscV.Emulator.Cpu.PrivilegeIsolation
import YaRiscV.Library.Rv64
import YaRiscV.Emulator.Cpu.Decode.Encodings
import YaRiscV.Emulator.Cpu.Decode.Expansion
import YaRiscV.Emulator.Cpu.PmpLock
import YaRiscV.Library.MemoryProtection
import YaRiscV.Emulator.Cpu.PmpSpecification
import YaRiscV.Library.InsertionMap
import YaRiscV.Emulator.Cpu.Decode.DecodeCache
import YaRiscV.Library.Workers
import YaRiscV.Emulator.LockWorkers
import YaRiscV.Emulator.SysconWatch
import YaRiscV.Library.RingBuffer
import YaRiscV.Emulator.Uart.Rings
import YaRiscV.Emulator.Uart.RingWorkers
import YaRiscV.Library.DeviceTree
import YaRiscV.Fdt
import YaRiscV.FdtRoundTrip
import YaRiscV.Emulator.WireTurns
import YaRiscV.Emulator.Clint.Turns
import YaRiscV.Emulator.Clint.TimeReads
import YaRiscV.Emulator.Clint.TimeStores
import YaRiscV.Emulator.WireDrivers
import YaRiscV.Emulator.Cpu.WfiTurns
import YaRiscV.Emulator.Cpu.SampledWires
import YaRiscV.Emulator.Cpu.WfiSleep
import YaRiscV.Library.MaskedView
import YaRiscV.Emulator.Cpu.MstatusBits
import YaRiscV.Emulator.Cpu.RegisterViews
import YaRiscV.Emulator.Cpu.PendingOwnership
import YaRiscV.Emulator.Cpu.TrapReturn
import YaRiscV.Emulator.Cpu.InterruptChain
import YaRiscV.Emulator.Cpu.Completion
import YaRiscV.Emulator.Cpu.Retirement
import YaRiscV.Emulator.Cpu.ControlAlignment
import YaRiscV.Emulator.RamCoherence
import YaRiscV.Emulator.Uart.BaudProgramming
import YaRiscV.Emulator.Cpu.Decode.IllegalTraps
import YaRiscV.Utils.Arithmetic
import YaRiscV.Library.Rv64Integer
import YaRiscV.Emulator.Cpu.IntegerSemantics
import YaRiscV.Emulator.Cpu.MultiplyDivide
import YaRiscV.Emulator.Cpu.AmoSemantics
import YaRiscV.Emulator.Cpu.ScalarAccess
import YaRiscV.FdtMachine
import YaRiscV.FdtPlacement
import YaRiscV.Emulator.SysconRegisters
import YaRiscV.Emulator.Clint.ByteTransfers
import YaRiscV.Library.Unwinding
import YaRiscV.Emulator.Unwinding
import YaRiscV.Emulator.MonitorRelease
import YaRiscV.Emulator.StoreConditionalTurns
import YaRiscV.Emulator.Cpu.MonitorLock
import YaRiscV.Library.Rv64Machine
import YaRiscV.Emulator.Cpu.BareMachine
import YaRiscV.Emulator.Cpu.MachineSteps
import YaRiscV.Emulator.Cpu.MachineRefinement
import YaRiscV.Emulator.InterruptLines
import YaRiscV.Emulator.DeviceSteps
import YaRiscV.Emulator.Uart.DeviceRuns
import YaRiscV.Emulator.Cpu.AccessRuns
import YaRiscV.Emulator.Cpu.MachineTurns
import YaRiscV.Emulator.InterruptDelivery
import YaRiscV.Emulator.Uart.TransmitQueue
import YaRiscV.Library.Ranking
import YaRiscV.Emulator.Terminal
import YaRiscV.Emulator.Lifecycle
import YaRiscV.FdtSize
import YaRiscV.Library.DeviceTreeQuery
import YaRiscV.Emulator.BootTree
import YaRiscV.Emulator.DeviceAgreement
import YaRiscV.Emulator.Cpu.PmpBelowMachine
import YaRiscV.Emulator.Cpu.DeviceMediation
import YaRiscV.Emulator.Secrecy
