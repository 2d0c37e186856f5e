import PyDht.TelegramExchange

set_option autoImplicit false

namespace PyDht

open Effects (bind_returns)

namespace Telegram

section numerals

end numerals

/-! Responses as a server writes them. -/

def crlf : Bytes := [13, 10]

def numeral (base number : Nat) : Bytes :=
  (Nat.toDigits base number).map fun char => UInt8.ofNat char.toNat

def chunk (data : Bytes) : Bytes := numeral 16 data.length ++ crlf ++ data ++ crlf

/-- A body in chunks, with the last one, which is empty. -/
def chunked (chunks : List Bytes) : Bytes := chunks.flatMap chunk ++ numeral 16 0 ++ crlf ++ crlf

section streams

variable {start : HttpSession}

/-- A chunk has data, and a size that fits into a line. -/
structure Chunk (data : Bytes) : Prop where
  some : data ≠ []
  short : (numeral 16 data.length).length < READER_LIMIT

/-- A header line without its end. -/
structure HeaderLine (line : Bytes) : Prop where
  some : line ≠ []
  feedless : 10 ∉ line
  short : line.length < READER_LIMIT

def nameOf (line : Bytes) : List Char := (headerOf (line ++ [13] ++ [10])).1

end streams

/-- How the end of a body is told. -/
inductive Framing where
  | chunked (chunks : List Bytes)
  | sized (body : Bytes)
  | closing (body : Bytes)

namespace Framing

def body : Framing → Bytes
  | .chunked chunks => chunks.flatten
  | .sized body | .closing body => body

def lines : Framing → List Bytes
  | .chunked _ => [ascii "Transfer-Encoding: chunked"]
  | .sized body => [ascii "Content-Length: " ++ numeral 10 body.length]
  | .closing _ => []

def stream : Framing → Bytes
  | .chunked chunks => Telegram.chunked chunks
  | .sized body | .closing body => body

end Framing

/-- A response as a server writes it; `phrase` is what stands behind the status. -/
structure Response where
  status : Nat
  phrase : Bytes
  lines : List Bytes
  framing : Framing

namespace Response

def statusLine (response : Response) : Bytes :=
  ascii "HTTP/1.1 " ++ numeral 10 response.status ++ response.phrase

def write (response : Response) : Bytes :=
  response.statusLine ++ crlf ++
    ((response.lines ++ response.framing.lines).flatMap (· ++ crlf) ++ crlf ++
      response.framing.stream)

/-- The response keeps to the limits of the reader, and only its framing speaks of the framing. -/
structure Wellformed (config : TelegramConfig) (response : Response) : Prop where
  status : 100 ≤ response.status ∧ response.status < 1000
  phrase : response.phrase = [] ∨ response.phrase.head? = some 32 ∧
    ∀ byte ∈ response.phrase.getLast?, isLatinBlank (Percent.letter byte) = false
  feedless : 10 ∉ response.phrase
  short : response.statusLine.length < READER_LIMIT
  lines : ∀ line ∈ response.lines, HeaderLine line ∧
    nameOf line ∉ ["transfer-encoding".toList, "content-length".toList]
  small : (response.framing.body.length : Int) ≤ config.telegramHttpMaxResponseBytes
  framing :
    match response.framing with
    | .chunked chunks => ∀ data ∈ chunks, Chunk data
    | .sized body => (Nat.toDigits 10 body.length).length ≤ 4300
    | .closing _ => True

variable {config : TelegramConfig} {response : Response} {start : HttpSession}

end Response

def sampleResponse : Response where
  status := 200
  phrase := ascii " OK"
  lines := [ascii "Server: nginx"]
  framing := .chunked [ascii "\x7b\"ok\":", ascii "true\x7d"]

end Telegram

end PyDht
