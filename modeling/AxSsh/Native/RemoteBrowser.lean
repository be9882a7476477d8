import AxSsh.Native.SftpDirectory
import AxSsh.Native.Workspace

/-!
# The remote directory browser

The command loop of one SFTP browser session: `run_browser_inner` of `sftp.rs` with the
functions it calls, from resolving a path to reading a directory page by page.

The server answers each request with a `Reply`, and a request it leaves unanswered elapses.
`debug` is the `{:?}` form of a string.  A command comes with everything the environment does
while it runs: the server's replies, and whether the receiver of the events is still there.
-/

namespace AxSsh

def maxPageEntries : Nat := 250

/-! ## Errors -/

inductive StatusCode where
  | ok | eof | noSuchFile | permissionDenied | failure | badMessage | noConnection
  | connectionLost | opUnsupported
deriving DecidableEq, Repr

/-- `russh_sftp::client::error::Error`, with its display text; `other` is any error that is
    neither a status nor a limit of the client. -/
inductive SftpClientError where
  | status (code : StatusCode) (text : String)
  | limited (text : String)
  | other (text : String)
deriving DecidableEq, Repr

/-- What the first `?` of an error chain started from. -/
inductive BrowserCause where
  /-- `tokio::time::error::Elapsed` -/
  | elapsed
  | client (error : SftpClientError)
  /-- `mpsc::error::SendError` -/
  | sendFailed
  | message (text : String)
deriving DecidableEq, Repr

/-- An `anyhow::Error`: its contexts, the outermost first, and its cause. -/
structure BrowserError where
  contexts : List String
  cause : BrowserCause
deriving DecidableEq, Repr

def SftpClientError.text : SftpClientError → String
  | .status _ text | .limited text | .other text => text

def BrowserCause.text : BrowserCause → String
  | .elapsed => "deadline has elapsed"
  | .client error => error.text
  | .sendFailed => "channel closed"
  | .message text => text

namespace BrowserError

def ofMessage (text : String) : BrowserError := ⟨[], .message text⟩

def context (error : BrowserError) (text : String) : BrowserError :=
  { error with contexts := text :: error.contexts }

end BrowserError

def browserTransportFailed (error : BrowserError) : Bool :=
  match error.cause with
  | .elapsed => true
  | .client (.status code _) => code = .noConnection || code = .connectionLost
  | .client (.limited _) => false
  | .client (.other _) => true
  | .sendFailed | .message _ => false

def maxErrorChars : Nat := 512

def boundedError (error : BrowserError) : String :=
  let message := String.intercalate ": " (error.contexts ++ [error.cause.text])
  let bounded := String.ofList (message.toList.take maxErrorChars)
  if maxErrorChars < message.toList.length then bounded ++ "..." else bounded

/-- The outcome of one request under `timeout(REQUEST_TIMEOUT, _)`. -/
inductive Reply (α : Type) where
  | elapsed
  | failed (error : SftpClientError)
  | ok (value : α)
deriving DecidableEq, Repr

/-- `.context(timedOut)?.context(refused)?` -/
def Reply.context {α : Type} (timedOut refused : String) : Reply α → Except BrowserError α
  | .elapsed => .error ⟨[timedOut], .elapsed⟩
  | .failed error => .error ⟨[refused], .client error⟩
  | .ok value => .ok value

/-! ## Remote paths -/

def validateRemotePath (path : String) : Except BrowserError Unit :=
  if path.toList.any isControl then
    .error (.ofMessage "remote path cannot contain control characters")
  else .ok ()

def joinRemote (parent child : String) : String :=
  if parent = "/" then "/" ++ child else trimEndSlashes parent ++ "/" ++ child

/-- The loop of `normalize_remote_path` over the parts between the slashes. -/
def normalParts (path : String) : List (List Char) :=
  (path.toList.splitOn '/').foldl (fun parts part =>
    if part = [] ∨ part = ['.'] then parts
    else if part = ['.', '.'] then parts.dropLast
    else parts ++ [part]) []

def normalizeRemotePath (path : String) : Except BrowserError String := do
  let joined := String.ofList (['/'].intercalate (normalParts path))
  let normalized :=
    if path.toList.head? = some '/' then "/" ++ joined
    else if (normalParts path).isEmpty then "."
    else joined
  validateRemotePath normalized
  pure normalized

def resolveRemotePath (current home path : String) : Except BrowserError String := do
  validateRemotePath path
  normalizeRemotePath <|
    if path = "" ∨ path = "." then current
    else if path = "~" then home
    else match path.toList with
      | '~' :: '/' :: rest => joinRemote home (String.ofList rest)
      | '/' :: _ => path
      | _ => joinRemote current path

/-- `russh_sftp::protocol::File`, with the attributes that are read. -/
structure File where
  filename : String
  isDir : Bool
  isSymlink : Bool
  size : Option Nat
  mtime : Option Nat
deriving DecidableEq, Repr

def canonicalize (debug : String → String) (path : String) (realpath : Reply (List File)) :
    Except BrowserError String := do
  validateRemotePath path
  let files ← realpath.context "SFTP realpath timed out" s!"cannot resolve remote path {debug path}"
  match files.head? with
  | none => .error (.ofMessage "SFTP server returned an empty realpath response")
  | some file => do
    validateRemotePath file.filename
    pure file.filename

def boundedEntry (parent : String) (file : File) : Option SftpEntry :=
  let name := file.filename
  if name = "." ∨ name = ".." ∨ name = "" ∨ name.toList.any isControl ∨ '/' ∈ name.toList then none
  else
    let path := joinRemote parent name
    match validateRemotePath path with
    | .error _ => none
    | .ok () => some
        { name
          path
          isDir := file.isDir
          isSymlink := file.isSymlink
          size := file.size.getD 0
          modified := file.mtime }

/-! ## What the session does -/

/-- The server's handles and the event channel, as the session has used them so far. -/
structure BrowserLog where
  /-- Handles that OPENDIR has returned. -/
  opened : List String
  /-- Handles that CLOSE was sent for. -/
  closed : List String
  events : List SftpBrowserEvent
  receiverOpen : Bool
deriving DecidableEq, Repr

namespace BrowserLog

def new : BrowserLog := ⟨[], [], [], true⟩

/-- `event_tx.send`: once the receiver is dropped, every send fails. -/
def send (log : BrowserLog) (receives : Bool) (event : SftpBrowserEvent) : BrowserLog × Bool :=
  if log.receiverOpen && receives then ({ log with events := log.events ++ [event] }, true)
  else ({ log with receiverOpen := false }, false)

/-- The answer to CLOSE is only logged. -/
def closeHandle (log : BrowserLog) (handle : String) : BrowserLog :=
  { log with closed := log.closed ++ [handle] }

end BrowserLog

structure DirectoryCursor where
  path : String
  handle : String
  pending : List File
  done : Bool
  truncated : Bool
deriving DecidableEq, Repr

def closeCursor (log : BrowserLog) (cursor : DirectoryCursor) : BrowserLog :=
  if cursor.handle = "" then log else log.closeHandle cursor.handle

/-- `if let Some(cursor) = cursor { close_cursor }` -/
def closeCurrent (log : BrowserLog) : Option DirectoryCursor → BrowserLog
  | some cursor => closeCursor log cursor
  | none => log

def sendRequestError (log : BrowserLog) (receives : Bool) (requestId : Option UInt64)
    (error : BrowserError) : BrowserLog :=
  (log.send receives (.failed requestId (boundedError error))).1

def openDirectory (debug : String → String) (log : BrowserLog) (path : String)
    (opendir : Reply String) : Except BrowserError DirectoryCursor × BrowserLog :=
  match validateRemotePath path with
  | .error error => (.error error, log)
  | .ok () =>
    match opendir.context "SFTP open directory timed out"
        s!"cannot open remote directory {debug path}" with
    | .error error => (.error error, log)
    | .ok handle =>
      (.ok { path, handle, pending := [], done := false, truncated := false },
        { log with opened := log.opened ++ [handle] })

/-! ## Paging -/

/-- The inner loop of `read_page`: entries move from the buffer to the page while it has room.
    The page and what is left of the buffer. -/
def takeEntries (parent : String) : List SftpEntry → List File → List SftpEntry × List File
  | page, [] => (page, [])
  | page, file :: pending =>
    if page.length < maxPageEntries then
      match boundedEntry parent file with
      | some entry => takeEntries parent (page ++ [entry]) pending
      | none => takeEntries parent page pending
    else (page, file :: pending)

/-- What reading a page leaves: the cursor, the READDIR replies that were read, and the page. -/
structure PageRead where
  cursor : DirectoryCursor
  reads : List (Reply (List File))
  page : Except BrowserError (List SftpEntry)
deriving Repr

/-- `read_page` with an empty page and an empty buffer: a READDIR, and another one as long as the
    entries of the batch are all filtered out. -/
def readBatches (cursor : DirectoryCursor) : List (Reply (List File)) → PageRead
  | [] => ⟨cursor, [.elapsed], .error ⟨["SFTP read directory timed out"], .elapsed⟩⟩
  | reply :: replies =>
    match reply with
    | .elapsed => ⟨cursor, [reply], .error ⟨["SFTP read directory timed out"], .elapsed⟩⟩
    | .ok [] => ⟨{ cursor with done := true }, [reply], .ok []⟩
    | .ok files =>
      let (page, pending) := takeEntries cursor.path [] files
      let cursor := { cursor with pending }
      if page.isEmpty then
        let rest := readBatches cursor replies
        { rest with reads := reply :: rest.reads }
      else ⟨cursor, [reply], .ok page⟩
    | .failed (.status .eof _) => ⟨{ cursor with done := true }, [reply], .ok []⟩
    | .failed error => ⟨cursor, [reply], .error ⟨["cannot read remote directory"], .client error⟩⟩

def readPage (cursor : DirectoryCursor) (replies : List (Reply (List File))) : PageRead :=
  if cursor.done then ⟨cursor, [], .ok []⟩
  else
    let (page, pending) := takeEntries cursor.path [] cursor.pending
    let cursor := { cursor with pending }
    -- a page that is not empty is shown before another round trip
    if page.isEmpty then readBatches cursor replies else ⟨cursor, [], .ok page⟩

/-- What the environment does during one command.  A request without a reply elapses. -/
structure Replies where
  realpath : Reply (List File)
  opendir : Reply String
  readdirs : List (Reply (List File))
  /-- Whether the receiver takes the event of the command. -/
  receives : Bool
  closeSession : Except SftpClientError Unit
deriving Repr

/-- What emitting a page leaves. -/
structure PageEmitted where
  cursor : DirectoryCursor
  reads : List (Reply (List File))
  log : BrowserLog
  result : Except BrowserError Unit
deriving Repr

def emitPage (log : BrowserLog) (cursor : DirectoryCursor) (requestId : Option UInt64)
    (append : Bool) (replies : Replies) : PageEmitted :=
  let read := readPage cursor replies.readdirs
  match read.page with
  | .error error => ⟨read.cursor, read.reads, log, .error error⟩
  | .ok entries =>
    let cursor := read.cursor
    match log.send replies.receives (.directoryPage requestId cursor.path entries append
        (!cursor.done) cursor.truncated) with
    | (log, false) =>
      ⟨cursor, read.reads, log, .error ⟨["SFTP event receiver dropped"], .sendFailed⟩⟩
    | (log, true) =>
      if cursor.done then
        ⟨{ cursor with handle := "" }, read.reads, closeCursor log cursor, .ok ()⟩
      else ⟨cursor, read.reads, log, .ok ()⟩

/-- `open_directory` and the first `emit_page`, as the start and `List` run them. -/
def openAndEmit (debug : String → String) (log : BrowserLog) (path : String)
    (requestId : Option UInt64) (replies : Replies) :
    Except BrowserError (DirectoryCursor × List (Reply (List File))) × BrowserLog :=
  match openDirectory debug log path replies.opendir with
  | (.error error, log) => (.error error, log)
  | (.ok cursor, log) =>
    let emitted := emitPage log cursor requestId false replies
    (emitted.result.map fun _ => (emitted.cursor, emitted.reads), emitted.log)

/-! ## The command loop -/

inductive SftpBrowserCommand where
  | list (requestId : Option UInt64) (path : String)
  | loadMore (requestId : UInt64)
  | close
deriving DecidableEq, Repr

/-- The loop between two commands; `reads` are the READDIR replies of the current listing. -/
structure RemoteBrowser where
  home : String
  cursor : Option DirectoryCursor
  reads : List (Reply (List File))
  log : BrowserLog
deriving DecidableEq, Repr

/-- Where `run_browser_inner` stands. -/
inductive BrowserRun where
  | idle
  | running (browser : RemoteBrowser)
  | ended (result : Except BrowserError Unit) (log : BrowserLog)
deriving DecidableEq, Repr

/-- One turn of the function: its start, or what the `select!` of the loop takes next. -/
inductive BrowserInput where
  | start (initialPath : String) (handshake : Reply Unit) (home : Reply (List File))
      (openedReceived : Bool) (replies : Replies)
  | channelClosed
  | command (command : SftpBrowserCommand) (replies : Replies)
  /-- `command_rx.recv()` returns `None`. -/
  | commandsClosed (closeSession : Except SftpClientError Unit)
deriving Repr

namespace RemoteBrowser

/-- What follows the loop when it is left by `break`. -/
def finish (b : RemoteBrowser) (closeSession : Except SftpClientError Unit) : BrowserRun :=
  .ended (closeSession.mapError fun error => ⟨["failed to close SFTP session"], .client error⟩)
    (closeCurrent b.log b.cursor)

/-- A failed request: the connection is given up, or the error is reported and the loop goes on
    as `b` has it. -/
def requestFailed (b : RemoteBrowser) (requestId : Option UInt64) (receives : Bool)
    (error : BrowserError) : BrowserRun :=
  if browserTransportFailed error then
    .ended (.error (error.context "SFTP browser connection failed")) b.log
  else .running { b with log := sendRequestError b.log receives requestId error }

/-- `SftpBrowserCommand::List` once the path is canonical. -/
def listCanonical (debug : String → String) (b : RemoteBrowser) (requestId : Option UInt64)
    (canonical : String) (replies : Replies) : BrowserRun :=
  match openAndEmit debug b.log canonical requestId replies with
  | (.error error, log) => requestFailed { b with log } requestId replies.receives error
  | (.ok (next, reads), log) =>
    .running { b with cursor := some next, reads, log := closeCurrent log b.cursor }

/-- The directory that a relative path is relative to. -/
def directory (b : RemoteBrowser) : String := (b.cursor.map (·.path)).getD b.home

/-- `SftpBrowserCommand::List` -/
def list (debug : String → String) (b : RemoteBrowser) (requestId : Option UInt64)
    (path : String) (replies : Replies) : BrowserRun :=
  match resolveRemotePath b.directory b.home path with
  | .error error => b.requestFailed requestId replies.receives error
  | .ok resolved =>
    match canonicalize debug resolved replies.realpath with
    | .error error => b.requestFailed requestId replies.receives error
    | .ok canonical => b.listCanonical debug requestId canonical replies

/-- `SftpBrowserCommand::LoadMore` -/
def loadMore (b : RemoteBrowser) (requestId : UInt64) (replies : Replies) : BrowserRun :=
  match b.cursor with
  | none =>
    .running { b with
      log := sendRequestError b.log replies.receives (some requestId)
        (.ofMessage "SFTP directory is not open") }
  | some cursor =>
    if cursor.done then
      .running { b with
        log := sendRequestError b.log replies.receives (some requestId)
          (.ofMessage "SFTP directory has no additional page") }
    else
      let emitted := emitPage b.log cursor (some requestId) true replies
      let b := { b with
        cursor := some emitted.cursor, reads := b.reads ++ emitted.reads, log := emitted.log }
      match emitted.result with
      | .error error => b.requestFailed (some requestId) replies.receives error
      | .ok () => .running b

end RemoteBrowser

/-- `run_browser_inner` up to its loop. -/
def startBrowser (debug : String → String) (initialPath : String) (handshake : Reply Unit)
    (home : Reply (List File)) (openedReceived : Bool) (replies : Replies) : BrowserRun :=
  let log := BrowserLog.new
  match handshake.context "SFTP handshake timed out" "SFTP handshake failed" with
  | .error error => .ended (.error error) log
  | .ok () =>
    match canonicalize debug "." home with
    | .error error => .ended (.error error) log
    | .ok home =>
      match log.send openedReceived (.opened home) with
      | (log, false) => .ended (.error ⟨["SFTP event receiver dropped"], .sendFailed⟩) log
      | (log, true) =>
        match resolveRemotePath home home initialPath with
        | .error error => .ended (.error error) log
        | .ok initial =>
          match openAndEmit debug log initial none replies with
          | (.error error, log) => .ended (.error error) log
          | (.ok (cursor, reads), log) => .running { home, cursor := some cursor, reads, log }

namespace BrowserRun

/-- One turn; an ended function takes none, and it is started once. -/
def step (debug : String → String) (run : BrowserRun) (input : BrowserInput) : BrowserRun :=
  match run, input with
  | .idle, .start initialPath handshake home openedReceived replies =>
    startBrowser debug initialPath handshake home openedReceived replies
  | .running b, .channelClosed =>
    .ended (.error (.ofMessage "SFTP subsystem channel closed unexpectedly")) b.log
  | .running b, .command (.list requestId path) replies => b.list debug requestId path replies
  | .running b, .command (.loadMore requestId) replies => b.loadMore requestId replies
  | .running b, .command .close replies => b.finish replies.closeSession
  | .running b, .commandsClosed closeSession => b.finish closeSession
  | run, _ => run

end BrowserRun

end AxSsh
