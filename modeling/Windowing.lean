import Windowing.Attribute
import Windowing.Client.Outcome
import Windowing.Client.Program
import Windowing.Client.Run
import Windowing.Client.Tables
import Windowing.Coded
import Windowing.Constant
import Windowing.Context
import Windowing.Dispatch
import Windowing.Error
import Windowing.Event
import Windowing.Failure
import Windowing.Flag
import Windowing.GammaRamp
import Windowing.Handle
import Windowing.Hint
import Windowing.InitLock
import Windowing.Input
import Windowing.Joystick
import Windowing.Key
import Windowing.Lifetime
import Windowing.Log
import Windowing.Monitor
import Windowing.Native.Call
import Windowing.Native.Reply
import Windowing.Number.Binary
import Windowing.Number.FloatText
import Windowing.Number.Hex
import Windowing.Number.Shortest
import Windowing.Panics
import Windowing.PendingError
import Windowing.Process
import Windowing.Proofs.AgreeingCalls
import Windowing.Proofs.AgreeingDrops
import Windowing.Proofs.AgreeingOperations
import Windowing.Proofs.AgreeingPrograms
import Windowing.Proofs.AgreeingThreadEnds
import Windowing.Proofs.ArgumentJudgement
import Windowing.Proofs.AtomicInterleaving
import Windowing.Proofs.CallDialogues
import Windowing.Proofs.CallExchanges
import Windowing.Proofs.CallNesting
import Windowing.Proofs.CallSoundness
import Windowing.Proofs.CallSupply
import Windowing.Proofs.CallValidity
import Windowing.Proofs.ClientCode
import Windowing.Proofs.CodeConversion
import Windowing.Proofs.CompositionalLaws
import Windowing.Proofs.ContextExclusivity
import Windowing.Proofs.ContextHandover
import Windowing.Proofs.ContextLeases
import Windowing.Proofs.CreationPlan
import Windowing.Proofs.DepthSufficiency
import Windowing.Proofs.DispatchQuiescence
import Windowing.Proofs.DormantThreads
import Windowing.Proofs.DroppedEvents
import Windowing.Proofs.ErrorAttribution
import Windowing.Proofs.EventConservation
import Windowing.Proofs.EventDelivery
import Windowing.Proofs.EventReception
import Windowing.Proofs.FailedInitializations
import Windowing.Proofs.GammaBits
import Windowing.Proofs.HandleCreation
import Windowing.Proofs.HandleOwnership
import Windowing.Proofs.HandleProvenance
import Windowing.Proofs.HandleSlots
import Windowing.Proofs.HandleTransfers
import Windowing.Proofs.HandlerRestraint
import Windowing.Proofs.HandlerWatch
import Windowing.Proofs.HeaderConstants
import Windowing.Proofs.HintRetrieval
import Windowing.Proofs.HistoryGrowth
import Windowing.Proofs.HistoryLedger
import Windowing.Proofs.InitializationCustody
import Windowing.Proofs.InitializationLedger
import Windowing.Proofs.InitializationLifetime
import Windowing.Proofs.InitializationLock
import Windowing.Proofs.InitializationOutcome
import Windowing.Proofs.InitializationStart
import Windowing.Proofs.JoystickArrays
import Windowing.Proofs.LedgerKeeping
import Windowing.Proofs.LedgerPostings
import Windowing.Proofs.LockAcquisition
import Windowing.Proofs.LockPoisoning
import Windowing.Proofs.ModeRanking
import Windowing.Proofs.ModeSorting
import Windowing.Proofs.NamedPointers
import Windowing.Proofs.OperationActions
import Windowing.Proofs.OperationComposition
import Windowing.Proofs.PendingErrorFrame
import Windowing.Proofs.ProcessComputation
import Windowing.Proofs.PumpBooks
import Windowing.Proofs.PumpErrors
import Windowing.Proofs.PumpOutcome
import Windowing.Proofs.QueryFailures
import Windowing.Proofs.RunComparison
import Windowing.Proofs.SharedState
import Windowing.Proofs.StateInspection
import Windowing.Proofs.SupplyAgreement
import Windowing.Proofs.TextTerminators
import Windowing.Proofs.TextTranscription
import Windowing.Proofs.ThreadEnds
import Windowing.Proofs.ThreadIsolation
import Windowing.Proofs.ThreadLikeness
import Windowing.Proofs.ThreadPossessions
import Windowing.Proofs.TurnsWithoutHandles
import Windowing.Proofs.WaitingThreads
import Windowing.Proofs.WatchedRuns
import Windowing.Proofs.WindowCreation
import Windowing.Proofs.WindowDestruction
import Windowing.Pump
import Windowing.Registry
import Windowing.Report
import Windowing.Session
import Windowing.Text.Quoted
import Windowing.Text.Utf8
import Windowing.Text.Visible
import Windowing.VideoMode
import Windowing.Window
import Windowing.Window.Lifetime
import Windowing.Window.Query
import Windowing.WindowState
