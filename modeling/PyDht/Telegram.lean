import PyDht.Catalogue
import PyDht.Lib.Effects
import PyDht.Lib.Percent
import PyDht.Lib.Segments
import PyDht.PeerWire
import PyDht.RoutingSnapshot

set_option autoImplicit false

namespace PyDht

/-- The values of `config.py` that the notifications read; the retry durations are whole numbers
here too. -/
structure TelegramConfig extends CrawlerConfig where
  telegramEnabled : Bool := false
  telegramBotToken : String := ""
  telegramChatId : String := ""
  telegramMessageMaxChars : Int := 4096
  telegramHttpMaxResponseBytes : Int := 1024 * 1024
  telegramMaxMatchLines : Int := 20
  notificationRetryBaseSeconds : Int := 60
  notificationRetryMaxSeconds : Int := 6 * 3600
  notificationRetryMaxAttempts : Int := 20
  notificationScanBatchSize : Int := 16

def TELEGRAM_HOST : String := "api.telegram.org"

/-- What an exchange with the server can raise; the names tell the classes of the exceptions. -/
inductive HttpFault where
  | osError (className text : String)
  | timeoutError
  | valueError (className text : String)
  | incompleteRead
  | attributeError
  | recursionError
  /-- No exception of the program: the bound of a loop was too small. -/
  | stalled
deriving DecidableEq, Repr

/-- `except (OSError, asyncio.TimeoutError, ValueError)`. -/
def HttpFault.isCaught : HttpFault → Bool
  | .osError _ _ | .timeoutError | .valueError _ _ => true
  | .incompleteRead | .attributeError | .recursionError | .stalled => false

/-- `f"{type(exc).__name__}: {exc}"` of an exception that is caught. -/
def HttpFault.describe : HttpFault → String
  | .osError className text | .valueError className text => s!"{className}: {text}"
  | _ => "TimeoutError: "

/-- What can happen to the connection at any point. -/
inductive HttpInterrupt where
  | os (className text : String)
  | timeout
deriving DecidableEq, Repr

def HttpInterrupt.fault : HttpInterrupt → HttpFault
  | .os className text => .osError className text
  | .timeout => .timeoutError

/-- The addresses of the module with the connection of one request: `insecure` is the exception of
`ssl.create_default_context`, `incoming` is what the server will send, and `ending` what happens
behind it, `none` for the end of the stream. `arrived` is how much of it is there at once. -/
structure HttpSession where
  ips : List String := []
  ipIndex : Nat := 0
  insecure : Option (String × String) := none
  refused : Option HttpInterrupt := none
  stuck : Option HttpInterrupt := none
  incoming : Bytes := []
  ending : Option HttpInterrupt := none
  arrived : Nat := 0
  written : Bytes := []
  opened : Nat := 0
  closed : Nat := 0
deriving DecidableEq, Repr

abbrev Http := EStateM HttpFault HttpSession

/-- What `json.loads(body.decode("utf-8"))` makes of a body: `malformed` stands for a
`UnicodeDecodeError` and a `JSONDecodeError`, `deep` for a `RecursionError`, and `oversized` for the
plain `ValueError` of an integer with too many figures. -/
inductive JsonBody where
  | malformed
  | deep
  | oversized (text : String)
  | value (payload : JsonValue)

namespace Telegram

/-- `magnet_uri`. -/
def magnetUri (torrentUid : String) (name : Option String) : Except PyError String :=
  if !"btih:".toList.isPrefixOf torrentUid.toList then
    .error (.valueError "only confirmed v1 btih torrent IDs are supported")
  else
    let infohash := torrentUid.toList.drop 5
    if infohash.length ≠ 40 || infohash.any (· ∉ "0123456789abcdef".toList) then
      .error (.valueError "invalid btih torrent UID")
    else
      let uri := "magnet:?xt=urn:btih:" ++ String.ofList infohash
      match name with
      | none => .ok uri
      | some name =>
          if name = "" then .ok uri
          else .ok (uri ++ "&dn=" ++
            String.ofList (Percent.quote Percent.unreserved (encodeUtf8 name)))

/-- `format_notification`. -/
def formatNotification (config : TelegramConfig) (torrent : IndexedTorrent)
    (result : KeywordResult) : Except PyError String := do
  let magnet ← magnetUri torrent.torrentUid torrent.name
  let lines := ["pyDHT keyword match",
    "Name: " ++ if torrent.name.getD "" = "" then "(unknown)" else torrent.name.getD "",
    s!"Size: {torrent.totalSize}",
    "Keywords: " ++ ", ".intercalate result.keywords,
    magnet]
  let lines := if result.matched = [] then lines
    else lines ++ ["Matches:"] ++
      (result.matched.take config.telegramMaxMatchLines.toNat).map fun value => s!"- {value}"
  return (("\n".intercalate lines).take config.telegramMessageMaxChars.toNat).toString

/-- `prepare`, with what `getaddrinfo` has returned; a failure counts as an empty answer. -/
def prepare (config : TelegramConfig) (infos : List String) (session : HttpSession) :
    HttpSession :=
  if !config.telegramEnabled then { session with ips := [], ipIndex := 0 }
  else
    let ips := infos.foldl (fun ips ip => if ip ∈ ips then ips else ips ++ [ip]) []
    { session with ips, ipIndex := 0 }

/-! What of the language the exchange uses. -/

/-- `decode("iso-8859-1")`. -/
def latin1 (raw : Bytes) : List Char := raw.map Percent.letter

/-- `bytes.isspace` of one byte. -/
def isAsciiBlank (byte : UInt8) : Bool := byte = 32 || decide (9 ≤ byte ∧ byte ≤ 13)

/-- `str.isspace` of a character of ISO 8859-1. -/
def isLatinBlank (char : Char) : Bool :=
  let number := char.toNat
  decide (9 ≤ number ∧ number ≤ 13) || decide (28 ≤ number ∧ number ≤ 32) || number = 0x85 ||
    number = 0xA0

/-- `str.lower` of a character of ISO 8859-1. -/
def latinLower (char : Char) : Char :=
  let number := char.toNat
  if 65 ≤ number ∧ number ≤ 90 ∨ 0xC0 ≤ number ∧ number ≤ 0xDE ∧ number ≠ 0xD7 then
    Char.ofNat (number + 32)
  else char

/-- `str.isdigit` of a character of ISO 8859-1: the raised figures are digits, too. -/
def isLatinDigit (char : Char) : Bool :=
  let number := char.toNat
  decide (48 ≤ number ∧ number ≤ 57) || number = 0xB2 || number = 0xB3 || number = 0xB9

/-- The figures of a number, which may be grouped by single underscores. -/
def ungroup (text : List Char) : Option (List Char) :=
  let groups := text.splitOn '_'
  if groups.any List.isEmpty then none else some groups.flatten

/-- The number that the figures stand for. -/
def figures (base : Nat) (text : List Char) : Option Nat :=
  text.foldl (fun value char => value.bind fun value =>
    ((Percent.figureValue char).filter (· < base)).map (base * value + ·)) (some 0)

def unsigned : List Char → Bool × List Char
  | '-' :: text => (true, text)
  | '+' :: text => (false, text)
  | text => (false, text)

def withoutPrefix : List Char → List Char
  | '0' :: 'x' :: '_' :: text | '0' :: 'X' :: '_' :: text => text
  | '0' :: 'x' :: text | '0' :: 'X' :: text => text
  | text => text

/-- `int(text, base)` for the bases 10 and 16, of a text without blanks at its ends. -/
def pyInt (base : Nat) (text : List Char) : Option Int := do
  let (negative, text) := unsigned text
  let digits ← ungroup (if base = 16 then withoutPrefix text else text)
  -- texts of more than 4300 decimal figures are not converted
  if base = 10 ∧ 4300 < digits.length then none
  else
    let value ← figures base digits
    return if negative then -(value : Int) else value

def raiseValue {α : Type} (text : String) : Http α := throw (.valueError "ValueError" text)

def convert (base : Nat) (text : List Char) : Http Int :=
  match pyInt base text with
  | some value => pure value
  | none => raiseValue s!"invalid literal for int() with base {base}"

/-! The stream. -/

def interrupted {α : Type} (interrupt : HttpInterrupt) : Http α := throw interrupt.fault

/-- The limit of a `StreamReader`. -/
def READER_LIMIT : Nat := 65536

/-- `readline`: up to a line feed, or what is left at the end of the stream. -/
def readline : Http Bytes := do
  let session ← get
  let line := session.incoming.takeWhile (· ≠ 10)
  if READER_LIMIT < line.length then
    raiseValue "Separator is not found, and chunk exceed the limit"
  else if line.length < session.incoming.length then
    set { session with incoming := session.incoming.drop (line.length + 1) }
    return line ++ [10]
  else
    match session.ending with
    | some interrupt => interrupted interrupt
    | none =>
        set { session with incoming := [] }
        return line

def readexactly (size : Int) : Http Bytes := do
  let session ← get
  if size < 0 then raiseValue "readexactly size can not be less than zero"
  else if size.toNat ≤ session.incoming.length then
    set { session with incoming := session.incoming.drop size.toNat }
    return session.incoming.take size.toNat
  else
    match session.ending with
    | some interrupt => interrupted interrupt
    | none => do
        set { session with incoming := [] }
        throw .incompleteRead

/-- `read`: what is there, up to a size. -/
def read (size : Int) : Http Bytes := do
  let session ← get
  if size = 0 then return []
  else if session.incoming.isEmpty ∨ size < 0 then
    match session.ending with
    | some interrupt => interrupted interrupt
    | none =>
        set { session with incoming := [] }
        return session.incoming
  else
    let count := max 1 (min size.toNat session.arrived)
    set { session with incoming := session.incoming.drop count }
    return session.incoming.take count

/-- The loop of `_read_chunked`; the first argument bounds its rounds. -/
def readChunks (maxBytes : Int) : Nat → Bytes → Http Bytes
  | 0, _ => throw .stalled
  | rounds + 1, chunks => do
      let line ← readline
      let text := Segments.trim isAsciiBlank (line.takeWhile (· ≠ 59))
      let size ← convert 16 (latin1 text)
      if size = 0 then
        let _ ← readline
        return chunks
      else if size < 0 ∨ maxBytes < chunks.length + size then
        raiseValue "HTTP response body exceeds configured limit"
      else
        let data ← readexactly size
        let _ ← readexactly 2
        readChunks maxBytes rounds (chunks ++ data)

/-- `_read_chunked`. -/
def readChunked (maxBytes : Int) : Http Bytes := do
  let session ← get
  readChunks maxBytes (session.incoming.length + 1) []

abbrev Headers := List (List Char × List Char)

/-- The name and the value in a header line. -/
def headerOf (line : Bytes) : List Char × List Char :=
  let text := latin1 line
  ((Segments.trim isLatinBlank (text.takeWhile (· ≠ ':'))).map latinLower,
    Segments.trim isLatinBlank ((text.dropWhile (· ≠ ':')).drop 1))

/-- The loop over the header lines; the first argument bounds its rounds. -/
def readHeaders : Nat → Headers → Http Headers
  | 0, _ => throw .stalled
  | rounds + 1, headers => do
      let line ← readline
      if line = [13, 10] ∨ line = [10] ∨ line = [] then return headers
      else readHeaders rounds (Dict.set (headerOf line).1 (headerOf line).2 headers)

/-- `status_line.decode(..).strip().split(" ", 2)[1]`, if it is there and a number. -/
def statusText (line : Bytes) : Option (List Char) :=
  let text := Segments.trim isLatinBlank (latin1 line)
  let behind := text.dropWhile (· ≠ ' ')
  let status := (behind.drop 1).takeWhile (· ≠ ' ')
  if behind = [] ∨ status = [] ∨ !status.all isLatinDigit then none else some status

def readBody (config : TelegramConfig) (headers : Headers) : Http Bytes := do
  let coding := (Dict.get? "transfer-encoding".toList headers).getD []
  if coding.map latinLower = "chunked".toList then
    readChunked config.telegramHttpMaxResponseBytes
  else
    match Dict.get? "content-length".toList headers with
    | some text => do
        let length ← convert 10 text
        readexactly (min length config.telegramHttpMaxResponseBytes)
    | none => read config.telegramHttpMaxResponseBytes

/-- `payload.get("ok") is True`, for a body that could be read. -/
def confirms : JsonBody → Http Bool
  | .malformed => return false
  | .deep => throw .recursionError
  | .oversized text => raiseValue text
  | .value (.dict entries) =>
      match Dict.get? "ok" entries with
      | some (.bool true) => return true
      | _ => return false
  | .value _ => throw .attributeError

/-- The body of the request. -/
def requestBody (config : TelegramConfig) (message : String) : Bytes :=
  (Percent.urlencode [(ascii "chat_id", encodeUtf8 config.telegramChatId),
    (ascii "text", encodeUtf8 message)]).map fun char => UInt8.ofNat char.toNat

/-- The head of the request, as a text that is still to be encoded. -/
def requestHead (config : TelegramConfig) (body : Bytes) : String :=
  s!"POST /bot{config.telegramBotToken}/sendMessage HTTP/1.1\r\n" ++
    s!"Host: {TELEGRAM_HOST}\r\n" ++
    "Content-Type: application/x-www-form-urlencoded\r\n" ++
    s!"Content-Length: {body.length}\r\n" ++
    "Connection: close\r\n\r\n"

/-- `ssl.create_default_context`. -/
def createDefaultContext : Http Unit := do
  let session ← get
  match session.insecure with
  | some fault => throw (.osError fault.1 fault.2)
  | none => return ()

/-- `asyncio.open_connection` with its `wait_for`. -/
def openConnection : Http Unit := do
  let session ← get
  match session.refused with
  | some interrupt => interrupted interrupt
  | none => set { session with opened := session.opened + 1 }

def drain : Http Unit := do
  let session ← get
  match session.stuck with
  | some interrupt => interrupted interrupt
  | none => return ()

/-- The response, from its first line to its body, as far as it decides the result. -/
def receive (config : TelegramConfig) (loads : Bytes → JsonBody) : Http (Bool × Option String) := do
  let line ← readline
  match statusText line with
  | none => return (false, some "invalid HTTP response")
  | some text => do
      let status ← convert 10 text
      let session ← get
      let headers ← readHeaders (session.incoming.length + 1) []
      let body ← readBody config headers
      if 200 ≤ status ∧ status < 300 then
        if ← confirms (loads body) then return (true, none)
        else return (false, some "telegram response did not confirm success")
      else return (false, some s!"telegram HTTP status {status}")

/-- The `try` block of `send_once`. -/
def exchange (config : TelegramConfig) (loads : Bytes → JsonBody) (message : String) :
    Http (Bool × Option String) := do
  let body := requestBody config message
  openConnection
  let head := requestHead config body
  if head.toList.any fun char => decide (127 < char.toNat) then
    throw (.valueError "UnicodeEncodeError" "ordinal not in range(128)")
  modify fun session => { session with written := session.written ++ ascii head ++ body }
  drain
  receive config loads

/-- The `except` clause of `send_once`. -/
def recoverFault (fault : HttpFault) : Http (Bool × Option String) := do
  if fault.isCaught then
    modify fun session =>
      if session.ips = [] then session
      else { session with ipIndex := (session.ipIndex + 1) % session.ips.length }
    return (false, some s!"telegram transport error: {fault.describe}")
  else throw fault

/-- The `finally` clause of `send_once`, whose exceptions are dropped. -/
def closeWriter : Http Unit :=
  modify fun session => { session with closed := session.opened }

/-- `send_once`. -/
def sendOnce (config : TelegramConfig) (loads : Bytes → JsonBody) (message : String) :
    Http (Bool × Option String) := do
  let session ← get
  if !config.telegramEnabled then return (false, some "telegram disabled")
  else if config.telegramBotToken = "" ∨ config.telegramChatId = "" then
    return (false, some "telegram credentials missing")
  else if session.ips = [] then return (false, some "telegram endpoint unresolved")
  else
    createDefaultContext
    let result ← tryCatch (tryCatch (exchange config loads message) recoverFault) fun fault => do
      closeWriter
      throw fault
    closeWriter
    return result

end Telegram

end PyDht
