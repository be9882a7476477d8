import AxSsh.ForStd.Transition
import AxSsh.ForStd.KeyedList
import AxSsh.ForStd.AssocMap
import AxSsh.Native.SftpTypes
import AxSsh.Native.SftpBrowser
import AxSsh.Native.PaneTree
import AxSsh.Native.Workspace
import AxSsh.Native.WindowRouter
import AxSsh.Spec.BrowserRows
import AxSsh.Spec.TransferLifecycle
import AxSsh.Spec.BrowserPhases
import AxSsh.Spec.BrowserConflicts
import AxSsh.Spec.BrowserIntents
import AxSsh.Spec.RouterOwnership
import AxSsh.ForStd.SwapRemove
import AxSsh.Native.SftpWorker
import AxSsh.ForStd.StepsVia
import AxSsh.Spec.TransferCensus
import AxSsh.Spec.LoopSteps
import AxSsh.Spec.WorkerCensus
import AxSsh.Spec.CensusMoves
import AxSsh.Spec.WorkerBooks
import AxSsh.Spec.WorkerSlots
import AxSsh.Spec.PaneInvariant
import AxSsh.Spec.PaneLayout
import AxSsh.Native.PacketStream
import AxSsh.ForStd.Framing
import AxSsh.Spec.PacketDelivery
import AxSsh.Native.SftpDirectory
import AxSsh.ForStd.Zipper
import AxSsh.Spec.BrowserHistory
import AxSsh.Spec.LocalPaging
import AxSsh.ForStd.Matching
import AxSsh.Native.AppTabs
import AxSsh.Spec.TabInvariants
import AxSsh.Spec.RouterTrees
import AxSsh.Spec.SnapshotRoundTrip
import AxSsh.Spec.DetachedWindows
import AxSsh.Native.RemoteBrowser
import AxSsh.Spec.RemotePaging
import AxSsh.Spec.BrowserHandles
import AxSsh.ForStd.Tokenizer
import AxSsh.Native.Telnet
import AxSsh.Spec.TelnetFraming
import AxSsh.Native.TerminalResponses
import AxSsh.Spec.ResponseOrder
import AxSsh.ForStd.ListDelta
import AxSsh.Native.TerminalDisplay
import AxSsh.Spec.SnapshotDeltas
import AxSsh.Native.TerminalMonitor
import AxSsh.Spec.HiddenOutput
import AxSsh.Native.UiRefresh
import AxSsh.Spec.RefreshRequests
import AxSsh.Native.Reconnect
import AxSsh.Spec.ReconnectSafety
import AxSsh.ForStd.TextLines
import AxSsh.Native.KnownHosts
import AxSsh.Spec.KnownHostsText
import AxSsh.Spec.KnownHostsEdits
import AxSsh.ForStd.History
import AxSsh.Native.UploadPublication
import AxSsh.Spec.UploadPump
import AxSsh.Spec.UploadPhases
import AxSsh.Spec.UploadSteps
import AxSsh.Spec.UploadTargets
import AxSsh.Spec.UploadGuard
import AxSsh.Native.SessionStore
import AxSsh.ForStd.Gate
import AxSsh.Native.ProfileTransactions
import AxSsh.Spec.StoreFrames
import AxSsh.Spec.ProfileSections
import AxSsh.Spec.ProfileGate
import AxSsh.Spec.ProfilePreviews
import AxSsh.ForStd.Faulty
import AxSsh.Native.Credentials
import AxSsh.Spec.CredentialChanges
import AxSsh.Spec.UnlockKeys
import AxSsh.Native.ProfileValidation
import AxSsh.Native.SessionManagement
import AxSsh.ForStd.Except
import AxSsh.Spec.ProfileChecks
import AxSsh.Spec.SessionGroups
import AxSsh.Native.SessionEditor
import AxSsh.Spec.CredentialPolicy
import AxSsh.Native.AppSettings
import AxSsh.Native.SessionFiles
import AxSsh.Spec.SettingsNormal
import AxSsh.Spec.SessionFiles
import AxSsh.Native.RemoteEdit
import AxSsh.Spec.RemoteEditSync
import AxSsh.ForStd.FindIter
import AxSsh.Native.TerminalTargets
import AxSsh.Spec.TargetTrimming
import AxSsh.Spec.CutTargets
import AxSsh.ForStd.Wildcard
import AxSsh.Native.DownloadDiscovery
import AxSsh.ForStd.Utf8
import AxSsh.Spec.TransferFilters
import AxSsh.ForStd.ListMove
import AxSsh.Spec.TabMoves
import AxSsh.ForStd.LexicalPath
import AxSsh.Spec.RemotePaths
import AxSsh.Native.TransferCache
import AxSsh.ForStd.Greedy
import AxSsh.Spec.CacheNames
import AxSsh.Spec.CacheQuota
import AxSsh.Spec.DownloadContainment
import AxSsh.ForStd.RangeReads
import AxSsh.Native.DownloadStream
import AxSsh.Spec.DownloadSteps
import AxSsh.Spec.DownloadIntegrity
import AxSsh.Native.HostKeyChecks
import AxSsh.Spec.HostKeyAgreement
import AxSsh.ForStd.Watch
import AxSsh.Native.TerminalResize
import AxSsh.Spec.ResizeOrder
import AxSsh.Spec.ResizeConvergence
import AxSsh.Native.TransferReplay
import AxSsh.Spec.CancelKept
import AxSsh.Native.TerminalPaste
import AxSsh.Spec.PasteLines
import AxSsh.ForStd.Glob
import AxSsh.Spec.HostPatterns
import AxSsh.Native.WorkspaceAutosave
import AxSsh.Spec.AutosaveCheckpoints
import AxSsh.Native.X11Setup
import AxSsh.Spec.X11Gate
import AxSsh.Spec.SnapshotRenaming
import AxSsh.Spec.TargetSpans
import AxSsh.Native.AtomicFiles
import AxSsh.Spec.AtomicReplacement
import AxSsh.ForStd.StackLoop
import AxSsh.Native.LocalUploads
import AxSsh.Spec.UploadWalk
import AxSsh.ForStd.NumberedNames
import AxSsh.Spec.CopyNames
import AxSsh.Native.SessionTransfers
import AxSsh.Spec.SessionTransfers
import AxSsh.ForStd.Latch
import AxSsh.ForStd.Segments
import AxSsh.Native.MouseEncoding
import AxSsh.Native.TerminalGrid
import AxSsh.Spec.MouseEncodings
import AxSsh.Spec.PresentationDeadlines
import AxSsh.Spec.RowCharacters
import AxSsh.ForStd.Mealy
import AxSsh.ForStd.Packets
import AxSsh.Native.PcmConverter
import AxSsh.Native.Shortcuts
import AxSsh.Spec.MicrophonePackets
import AxSsh.Spec.ReadableThemes
import AxSsh.Spec.RecordedShortcuts
import AxSsh.ForStd.Dialogue
import AxSsh.Native.EditPublication
import AxSsh.Native.LatencyMonitor
import AxSsh.Spec.EditPublications
import AxSsh.Spec.LatencyProbes
import AxSsh.ForStd.Coalesce
import AxSsh.Native.TerminalGlyphs
import AxSsh.Native.TerminalRender
import AxSsh.Spec.PreparedRuns
import AxSsh.Spec.RenderedLines
import AxSsh.ForStd.FirstSeen
import AxSsh.Native.DragPayloads
import AxSsh.Spec.DraggedFiles
import AxSsh.ForStd.Refresher
import AxSsh.Native.AutoRefresh
import AxSsh.Spec.AutoRefresh
import AxSsh.Spec.LocalRefresh
import AxSsh.ForStd.Notify
import AxSsh.Native.TransferControl
import AxSsh.Spec.QueueProgress
import AxSsh.Spec.TransferWaits
import AxSsh.Spec.UploadOutcomes
import AxSsh.Native.ConnectionLatency
import AxSsh.Spec.LatencyLabels
