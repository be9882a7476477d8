import AxSsh.Native.SftpDirectory
import AxSsh.Native.Workspace

/-!
# Tabs of the application

The tab operations of `AppState` in `app/state/tabs.rs` and `app/state/tabs/snapshots.rs`:
opening, linking, closing and moving tabs, and the tabs of a restored workspace.

What `Uuid::new_v4` and `default_local_directory` give is passed in as an argument.
-/

namespace AxSsh

inductive ConnectionTarget where
  | terminal
  | sftp
deriving DecidableEq, Repr

def ConnectionTarget.opposite : ConnectionTarget → ConnectionTarget
  | terminal => .sftp
  | sftp => .terminal

inductive ConnectionProfile where
  | ssh (sftpLocalPath : String)
  | telnet
  | serial
deriving DecidableEq, Repr

structure SessionProfile where
  id : Uuid
  name : String
  connection : ConnectionProfile
deriving DecidableEq, Repr

/-- `profile.ssh().map(|ssh| ssh.sftp_local_path.as_str()).unwrap_or_default()`. -/
def SessionProfile.sftpLocalPath (profile : SessionProfile) : String :=
  match profile.connection with
  | .ssh path => path
  | _ => ""

inductive TerminalBackend where
  | ssh (profileId : Uuid) (attemptId : Option Uuid)
  | sftp (profileId : Uuid) (attemptId : Option Uuid)
  | telnet (profileId : Uuid) (attemptId : Option Uuid)
  | serial (profileId : Uuid) (attemptId : Option Uuid)
  | «local»
deriving DecidableEq, Repr

/-- The fields of a terminal tab that opening and restoring it fill in. -/
structure TerminalTabState where
  backend : TerminalBackend
  terminal : Option String := none
  status : String := ""
  workerRunning : Bool := false
  reconnectEnabled : Bool := true
  sftp : SftpDirectoryState := {}
  sftpInitialPath : Option String := none

namespace TerminalTabState

def profileId (t : TerminalTabState) : Option Uuid :=
  match t.backend with
  | .ssh profileId _ | .sftp profileId _ | .telnet profileId _ | .serial profileId _ =>
    some profileId
  | .local => none

def sshRoute (t : TerminalTabState) : Option (Uuid × Option Uuid) :=
  match t.backend with
  | .ssh profileId attemptId | .sftp profileId attemptId => some (profileId, attemptId)
  | _ => none

def connectionTarget (t : TerminalTabState) : ConnectionTarget :=
  match t.backend with
  | .sftp _ _ => .sftp
  | _ => .terminal

end TerminalTabState

structure SessionEditorState where
  draftId : Uuid
  profileId : Option Uuid := none
  groupName : String := ""
deriving DecidableEq, Repr

inductive WorkspaceTabKind where
  | terminal (terminal : TerminalTabState)
  | settings
  | sessionEditor (editor : SessionEditorState)

namespace WorkspaceTabKind

def isSettings : WorkspaceTabKind → Bool
  | settings => true
  | _ => false

def isSessionEditor : WorkspaceTabKind → Bool
  | sessionEditor _ => true
  | _ => false

def samePage (kind other : WorkspaceTabKind) : Bool :=
  (kind.isSettings && other.isSettings) || (kind.isSessionEditor && other.isSessionEditor)

end WorkspaceTabKind

structure WorkspaceTab where
  id : Uuid
  title : String
  defaultTitle : String
  kind : WorkspaceTabKind
  companionTabId : Option Uuid := none

namespace WorkspaceTab

def sshConnectionTarget (tab : WorkspaceTab) : Option (Uuid × ConnectionTarget × Option Uuid) :=
  match tab.kind with
  | .terminal terminal => terminal.sshRoute.map fun (profileId, _) =>
    (profileId, terminal.connectionTarget, tab.companionTabId)
  | _ => none

/-- The profile and the target a tab connects to are these. -/
def connectsTo (tab : WorkspaceTab) (profileId : Uuid) (target : ConnectionTarget) : Bool :=
  tab.sshConnectionTarget.any fun (candidateProfileId, candidateTarget, _) =>
    candidateProfileId == profileId && candidateTarget == target

end WorkspaceTab

inductive SshSftpNavigation where
  | activated (tabId : Uuid)
  | connect (profileId : Uuid) (target : ConnectionTarget) (companionTabId : Uuid)
deriving DecidableEq, Repr

/-- The part of the application state that its tabs are in. -/
structure AppState where
  sessions : List SessionProfile := []
  tabs : List WorkspaceTab := []
  activeTabId : Option Uuid := none
  terminalNumbers : AssocMap Uuid Nat := ∅
  localTerminalNumber : Nat := 0

/-- `u32::saturating_add(1)`. -/
def nextNumber (number : Nat) : Nat := min (number + 1) (2 ^ 32 - 1)

namespace AppState

/-- `AppState::new`. -/
def new (sessions : List SessionProfile) : AppState := { sessions }

def tab? (s : AppState) (id : Uuid) : Option WorkspaceTab := s.tabs.findKey WorkspaceTab.id id

def profile? (s : AppState) (id : Uuid) : Option SessionProfile :=
  s.sessions.find? (·.id == id)

/-! ## Opening -/

/-- Append a tab and show it. -/
def pushTab (s : AppState) (tab : WorkspaceTab) : AppState :=
  { s with tabs := s.tabs ++ [tab], activeTabId := some tab.id }

def openSingletonTab (s : AppState) (newId : Uuid) (kind : WorkspaceTabKind) (title : String) :
    AppState × Uuid :=
  match s.tabs.find? (·.kind.samePage kind) with
  | some tab => ({ s with activeTabId := some tab.id }, tab.id)
  | none => (s.pushTab { id := newId, title, defaultTitle := title, kind }, newId)

def openSettingsTab (s : AppState) (newId : Uuid) : AppState × Uuid :=
  s.openSingletonTab newId .settings "Settings"

/-- Rewrite the first tab with a session editor. -/
def replaceEditor (title : String) (editor : SessionEditorState) :
    List WorkspaceTab → List WorkspaceTab
  | [] => []
  | tab :: tabs =>
    if tab.kind.isSessionEditor then
      { tab with title, kind := .sessionEditor editor } :: tabs
    else tab :: replaceEditor title editor tabs

def openSessionEditor (s : AppState) (newId : Uuid) (editor : SessionEditorState) :
    AppState × Uuid :=
  let title := match editor.profileId.bind s.profile? with
    | some profile => s!"Edit {profile.name}"
    | none => "New session"
  match s.tabs.find? (·.kind.isSessionEditor) with
  | some tab =>
    ({ s with tabs := replaceEditor title editor s.tabs, activeTabId := some tab.id }, tab.id)
  | none =>
    (s.pushTab { id := newId, title, defaultTitle := title, kind := .sessionEditor editor }, newId)

def openSessionEditorTab (s : AppState) (newId draftId : Uuid) : AppState × Uuid :=
  s.openSessionEditor newId { draftId }

/-- `groupName` is normalized. -/
def openSessionEditorForGroup (s : AppState) (newId draftId : Uuid) (groupName : String) :
    AppState × Uuid :=
  s.openSessionEditor newId { draftId, groupName }

def openSessionEditorForProfile (s : AppState) (newId draftId profileId : Uuid) :
    AppState × Bool :=
  if !s.sessions.any (·.id == profileId) then (s, false)
  else ((s.openSessionEditor newId { draftId, profileId := some profileId }).1, true)

/-! ## Companions -/

def setCompanion (id : Uuid) (companion : Option Uuid) (tabs : List WorkspaceTab) :
    List WorkspaceTab :=
  tabs.modifyKey WorkspaceTab.id id fun tab => { tab with companionTabId := companion }

/-- The companion a tab names. -/
def companion? (tabs : List WorkspaceTab) (id : Uuid) : Option Uuid :=
  (tabs.findKey WorkspaceTab.id id).bind (·.companionTabId)

/-- `unlink_companion`, on the tabs. -/
def unlinkCompanion (tabs : List WorkspaceTab) (tabId : Uuid) : List WorkspaceTab :=
  match companion? tabs tabId with
  | none => tabs
  | some companionTabId =>
    let tabs := setCompanion tabId none tabs
    if companion? tabs companionTabId = some tabId then setCompanion companionTabId none tabs
    else tabs

/-- `link_companions`, on the tabs. -/
def linkCompanions (tabs : List WorkspaceTab) (firstTabId secondTabId : Uuid) :
    List WorkspaceTab :=
  let tabs := unlinkCompanion tabs firstTabId
  let tabs := unlinkCompanion tabs secondTabId
  let tabs := setCompanion firstTabId (some secondTabId) tabs
  setCompanion secondTabId (some firstTabId) tabs

def insertConnectionTab (s : AppState) (tab : WorkspaceTab) (profileId : Uuid)
    (target : ConnectionTarget) (companionTabId : Option Uuid) : AppState × Uuid :=
  let companionTabId := companionTabId.filter fun companionTabId =>
    s.tabs.any fun candidate =>
      candidate.id == companionTabId && candidate.connectsTo profileId target.opposite
  let insertIndex := match companionTabId.bind fun id => s.tabs.findIdx? (·.id == id) with
    | some index => match target with
      | .terminal => index
      | .sftp => index + 1
    | none => s.tabs.length
  let tabs := s.tabs.insertIdx insertIndex tab
  let tabs := match companionTabId with
    | some companionTabId => linkCompanions tabs tab.id companionTabId
    | none => tabs
  ({ s with tabs, activeTabId := some tab.id }, tab.id)

def openTerminalTabWithCompanion (s : AppState) (newId : Uuid) (profile : SessionProfile)
    (companionTabId : Option Uuid) : AppState × Uuid :=
  let number := nextNumber ((s.terminalNumbers.lookup profile.id).getD 0)
  let s := { s with terminalNumbers := s.terminalNumbers.insert profile.id number }
  let backend := match profile.connection with
    | .ssh _ => TerminalBackend.ssh profile.id none
    | .telnet => .telnet profile.id none
    | .serial => .serial profile.id none
  let title := s!"{profile.name} #{number}"
  let terminal : TerminalTabState :=
    { backend, terminal := some "", status := "Preparing connection..." }
  s.insertConnectionTab { id := newId, title, defaultTitle := title, kind := .terminal terminal }
    profile.id .terminal companionTabId

/-- The browser of an SFTP tab; `home` is `default_local_directory()`. -/
def standaloneBrowser (localPath home : String) : SftpDirectoryState :=
  let path := trim localPath
  { «local» := .forStandaloneTab (if path = "" then home else path) }

def openSftpTabWithCompanionAtPath (s : AppState) (newId : Uuid) (home : String)
    (profile : SessionProfile) (companionTabId : Option Uuid) (initialPath : Option String) :
    AppState × Uuid :=
  let title := s!"{profile.name} SFTP"
  let terminal : TerminalTabState :=
    { backend := .sftp profile.id none
      status := "Preparing SFTP connection..."
      sftp := standaloneBrowser profile.sftpLocalPath home
      sftpInitialPath := initialPath }
  s.insertConnectionTab { id := newId, title, defaultTitle := title, kind := .terminal terminal }
    profile.id .sftp companionTabId

def openLocalShellTab (s : AppState) (newId : Uuid) : AppState × Uuid :=
  let number := nextNumber s.localTerminalNumber
  let title := s!"Local Shell #{number}"
  let terminal : TerminalTabState :=
    { backend := .local
      terminal := some ""
      status := "Starting local shell..."
      workerRunning := true
      reconnectEnabled := false }
  ({ s with localTerminalNumber := number }.pushTab
    { id := newId, title, defaultTitle := title, kind := .terminal terminal }, newId)

/-! ## Moving around -/

def activateTab (s : AppState) (tabId : Uuid) : AppState × Bool :=
  if s.tabs.any (·.id == tabId) then ({ s with activeTabId := some tabId }, true) else (s, false)

def setActiveTabFromSnapshot (s : AppState) (tabId : Option Uuid) : AppState :=
  match tabId with
  | none => s
  | some tabId => (s.activateTab tabId).1

def switchSshSftpTab (s : AppState) : AppState × Option SshSftpNavigation :=
  match s.activeTabId with
  | none => (s, none)
  | some activeTabId =>
    match (s.tab? activeTabId).bind (·.sshConnectionTarget) with
    | none => (s, none)
    | some (profileId, currentTarget, companionTabId) =>
      let target := currentTarget.opposite
      let connect := some (SshSftpNavigation.connect profileId target activeTabId)
      match companionTabId with
      | none => (s, connect)
      | some companionTabId =>
        if s.tabs.any fun tab => tab.id == companionTabId && tab.connectsTo profileId target then
          ({ s with activeTabId := some companionTabId }, some (.activated companionTabId))
        else ({ s with tabs := unlinkCompanion s.tabs activeTabId }, connect)

def moveTabFor (s : AppState) (tabId : Uuid) (targetIndex : Nat) (visibleTabIds : List Uuid) :
    AppState × Bool :=
  match visibleTabIds.findIdx? (· == tabId) with
  | none => (s, false)
  | some sourceIndex =>
    let targetIndex := min targetIndex (visibleTabIds.length - 1)
    if sourceIndex = targetIndex then (s, true)
    else
      let desiredOrder := (visibleTabIds.eraseIdx sourceIndex).insertIdx targetIndex tabId
      match s.tabs.findIdx? (·.id == tabId) with
      | none => (s, false)
      | some globalSourceIndex =>
        match s.tabs[globalSourceIndex]? with
        | none => (s, false)
        | some tab =>
          let tabs := s.tabs.eraseIdx globalSourceIndex
          let insertionIndex := match desiredOrder[targetIndex + 1]? with
            | some nextId => tabs.findIdx? (·.id == nextId)
            | none =>
              match (if targetIndex = 0 then none else desiredOrder[targetIndex - 1]?) with
              | some previousId => (tabs.findIdx? (·.id == previousId)).map (· + 1)
              | none => some 0
          match insertionIndex with
          | none =>
            ({ s with tabs := tabs.insertIdx (min globalSourceIndex tabs.length) tab }, false)
          | some index => ({ s with tabs := tabs.insertIdx index tab }, true)

/-! ## Closing -/

/-- Whether `close_tab` found the tab is its second result. -/
def closeTab (s : AppState) (tabId : Uuid) : AppState × Bool :=
  match s.tabs.findIdx? (·.id == tabId) with
  | none => (s, false)
  | some index =>
    let companionTabId := companion? s.tabs tabId
    let tabs := s.tabs.eraseIdx index
    let tabs := match companionTabId with
      | none => tabs
      | some companionTabId =>
        if companion? tabs companionTabId = some tabId then setCompanion companionTabId none tabs
        else tabs
    let activeTabId :=
      if s.activeTabId = some tabId then ((tabs[index]?).or tabs.getLast?).map (·.id)
      else s.activeTabId
    ({ s with tabs, activeTabId }, true)

/-! ## Restoring -/

/-- The tab a snapshot stands for, when its kind and profile are known. -/
def restoredKind (s : AppState) (newDraftId : Uuid) (home : String)
    (snapshot : WorkspaceTabSnapshot) : Option WorkspaceTabKind :=
  if snapshot.kind = "terminal" ∨ snapshot.kind = "sftp" then
    match snapshot.profileId with
    | some profileId =>
      match s.profile? profileId with
      | none => none
      | some profile =>
        let backend := match profile.connection, decide (snapshot.kind = "sftp") with
          | .ssh _, true => some (TerminalBackend.sftp profileId none)
          | .telnet, true | .serial, true => none
          | .ssh _, false => some (.ssh profileId none)
          | .telnet, false => some (.telnet profileId none)
          | .serial, false => some (.serial profileId none)
        backend.map fun backend =>
          let localPath :=
            if snapshot.sftpLocalPath = "" then profile.sftpLocalPath else snapshot.sftpLocalPath
          let sftp : SftpDirectoryState :=
            if snapshot.kind = "sftp" then standaloneBrowser localPath home else {}
          .terminal
            { backend
              terminal := if snapshot.kind = "sftp" then none else some snapshot.terminalText
              status :=
                if snapshot.status = "" then "Restored; reconnecting..." else snapshot.status
              sftp := { sftp with path := snapshot.sftpRemotePath }
              sftpInitialPath :=
                if snapshot.sftpRemotePath = "" then none else some snapshot.sftpRemotePath }
    | none =>
      some (.terminal
        { backend := .local
          terminal := some snapshot.terminalText
          status := snapshot.status
          reconnectEnabled := false })
  else if snapshot.kind = "settings" then some .settings
  else if snapshot.kind = "session-editor" then
    some (.sessionEditor { draftId := newDraftId, profileId := snapshot.profileId })
  else none

/-- One round of the loop that recreates the tabs. -/
def restoreTab (newDraftId : Uuid → Uuid) (home : String) (s : AppState)
    (snapshot : WorkspaceTabSnapshot) : AppState :=
  if s.tabs.any (·.id == snapshot.id) then s
  else match s.restoredKind (newDraftId snapshot.id) home snapshot with
    | none => s
    | some kind => { s with
      tabs := s.tabs ++
        [{ id := snapshot.id, title := snapshot.title, defaultTitle := snapshot.title, kind }] }

/-- One round of the loop that restores the links. -/
def restoreCompanion (restored : List Uuid) (tabs : List WorkspaceTab)
    (snapshot : WorkspaceTabSnapshot) : List WorkspaceTab :=
  if !restored.contains snapshot.id then tabs
  else setCompanion snapshot.id (snapshot.companionTabId.filter restored.contains) tabs

/-- Every tab that is recreated is pushed, so the recreated tabs are those of the list.
    `newDraftId` gives the draft id of each restored session editor. -/
def restoreWorkspaceTabs (s : AppState) (newDraftId : Uuid → Uuid) (home : String)
    (snapshots : List WorkspaceTabSnapshot) : AppState × List Uuid :=
  let s := snapshots.foldl (restoreTab newDraftId home) { s with tabs := [], activeTabId := none }
  let restored := s.tabs.map (·.id)
  ({ s with
    tabs := snapshots.foldl (restoreCompanion restored) s.tabs
    activeTabId := restored.head? }, restored)

end AppState

/-- What happens to the tabs of the application.  `saveSessions` is any change of the saved
    profiles. -/
inductive TabOp where
  | openSettingsTab (newId : Uuid)
  | openSessionEditorTab (newId draftId : Uuid)
  | openSessionEditorForGroup (newId draftId : Uuid) (groupName : String)
  | openSessionEditorForProfile (newId draftId profileId : Uuid)
  | openTerminalTab (newId : Uuid) (profile : SessionProfile) (companionTabId : Option Uuid)
  | openSftpTab (newId : Uuid) (home : String) (profile : SessionProfile)
      (companionTabId : Option Uuid) (initialPath : Option String)
  | openLocalShellTab (newId : Uuid)
  | activateTab (tabId : Uuid)
  | setActiveTabFromSnapshot (tabId : Option Uuid)
  | switchSshSftpTab
  | moveTabFor (tabId : Uuid) (targetIndex : Nat) (visibleTabIds : List Uuid)
  | closeTab (tabId : Uuid)
  | restoreWorkspaceTabs (snapshot : WorkspaceSnapshot) (newDraftId : Uuid → Uuid) (home : String)
  | saveSessions (sessions : List SessionProfile)

namespace AppState

def step (s : AppState) : TabOp → AppState
  | .openSettingsTab newId => (s.openSettingsTab newId).1
  | .openSessionEditorTab newId draftId => (s.openSessionEditorTab newId draftId).1
  | .openSessionEditorForGroup newId draftId groupName =>
    (s.openSessionEditorForGroup newId draftId groupName).1
  | .openSessionEditorForProfile newId draftId profileId =>
    (s.openSessionEditorForProfile newId draftId profileId).1
  | .openTerminalTab newId profile companionTabId =>
    (s.openTerminalTabWithCompanion newId profile companionTabId).1
  | .openSftpTab newId home profile companionTabId initialPath =>
    (s.openSftpTabWithCompanionAtPath newId home profile companionTabId initialPath).1
  | .openLocalShellTab newId => (s.openLocalShellTab newId).1
  | .activateTab tabId => (s.activateTab tabId).1
  | .setActiveTabFromSnapshot tabId => s.setActiveTabFromSnapshot tabId
  | .switchSshSftpTab => s.switchSshSftpTab.1
  | .moveTabFor tabId targetIndex visibleTabIds => (s.moveTabFor tabId targetIndex visibleTabIds).1
  | .closeTab tabId => (s.closeTab tabId).1
  | .restoreWorkspaceTabs snapshot newDraftId home =>
    (s.restoreWorkspaceTabs newDraftId home snapshot.tabs).1
  | .saveSessions sessions => { s with sessions }

end AppState

end AxSsh
