import PyDht.Telegram

set_option autoImplicit false

namespace PyDht

open Effects (Ensures)

namespace Telegram

/-- What was read is the front of what was to come; nothing else has changed. -/
structure Reads (start : HttpSession) (front : Bytes) (next : HttpSession) : Prop where
  same : next = { start with incoming := next.incoming }
  cut : start.incoming = front ++ next.incoming

theorem Reads.trans {start middle next : HttpSession} {front back : Bytes}
    (early : Reads start front middle) (late : Reads middle back next) :
    Reads start (front ++ back) next :=
  ⟨by rw [late.same, early.same], by rw [early.cut, late.cut, List.append_assoc]⟩

def Took (start next : HttpSession) : Prop := ∃ front, Reads start front next

/-- The bound of no loop has been too small, and something may have been read. -/
def Breaks (start : HttpSession) (fault : HttpFault) (next : HttpSession) : Prop :=
  fault ≠ .stalled ∧ Took start next

theorem Reads.took {start next : HttpSession} {front : Bytes} (reads : Reads start front next) :
    Took start next := ⟨front, reads⟩

theorem Took.refl (start : HttpSession) : Took start start := ⟨[], rfl, rfl⟩

theorem Took.trans {start middle next : HttpSession} (early : Took start middle)
    (late : Took middle next) : Took start next := by
  obtain ⟨front, early⟩ := early
  obtain ⟨back, late⟩ := late
  exact ⟨front ++ back, early.trans late⟩

theorem Took.breaks {start middle next : HttpSession} {fault : HttpFault}
    (early : Took start middle) (late : Breaks middle fault next) : Breaks start fault next :=
  ⟨late.1, early.trans late.2⟩

theorem Reads.shorter {start next : HttpSession} {front : Bytes} (reads : Reads start front next) :
    next.incoming.length + front.length = start.incoming.length := by
  rw [reads.cut, List.length_append, Nat.add_comm]

theorem Took.shorter {start next : HttpSession} (took : Took start next) :
    next.incoming.length ≤ start.incoming.length := by
  obtain ⟨front, reads⟩ := took
  have lengths := reads.shorter
  omega

section reader

variable {start : HttpSession}

/-- What a later part of the exchange does counts from its start. -/
theorem Took.onward {α : Type} {middle : HttpSession} {program : Http α}
    {returned : α → HttpSession → Prop} (took : Took start middle)
    (ensures : Ensures (· = middle) program returned (Breaks middle)) :
    Ensures (· = middle) program
      (fun value next => returned value next) (Breaks start) :=
  ensures.raises fun _ _ broken => took.breaks broken

/-- What was read with a body: the body is part of it, and not longer than it may be. -/
structure Holds (maxBytes : Int) (start : HttpSession) (body : Bytes) (next : HttpSession) :
    Prop where
  small : (body.length : Int) ≤ maxBytes
  part : ∃ front, Reads start front next ∧ body.Sublist front

/-- The bytes of the request for a message. -/
def request (config : TelegramConfig) (message : String) : Bytes :=
  let body := requestBody config message
  ascii (requestHead config body) ++ body

/-- How a `try` block leaves things: a connection at most, and the request at most once. -/
structure Tried (config : TelegramConfig) (message : String) (start next : HttpSession) :
    Prop where
  ips : next.ips = start.ips
  ipIndex : next.ipIndex = start.ipIndex
  opened : next.opened = start.opened ∨ next.opened = start.opened + 1
  closed : next.closed = start.closed
  written : next.written = start.written ∨
    next.opened = start.opened + 1 ∧ next.written = start.written ++ request config message

theorem Tried.read {config : TelegramConfig} {message : String} {middle next : HttpSession}
    (tried : Tried config message start middle) (took : Took middle next) :
    Tried config message start next := by
  obtain ⟨front, reads⟩ := took
  rw [reads.same]
  exact ⟨tried.ips, tried.ipIndex, tried.opened, tried.closed, tried.written⟩

end reader

def sampleTelegram : TelegramConfig :=
  { telegramEnabled := true, telegramBotToken := "1:a", telegramChatId := "7" }

def sampleLoads (body : Bytes) : JsonBody :=
  if body = ascii "\x7b\"ok\":true\x7d" then .value (.dict [("ok", .bool true)]) else .malformed

end Telegram

end PyDht
