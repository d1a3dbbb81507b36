import EventRelay.Source

namespace EventRelay

/-- Plays back prepared results, and waits once they are used up. -/
structure Script where
  items : List FetchResult
  line : WaitLine
deriving DecidableEq

namespace Script

def create (items : List FetchResult) : Script := ⟨items, .empty⟩

/-- Takes the next item, or a kept interrupt, or waits at the back of the line. -/
def takeOrWait (s : Script) (t : Ticket) (c : Cursor) : FetchReply × Script :=
  match s.items with
  | item :: rest => (.ready item, { s with items := rest })
  | [] =>
    if s.line.permit then (.ready (.failed .interrupted), { s with line := { s.line with permit := false } })
    else (.pending t, { s with line := s.line.join t c })

def fetch (s : Script) (c : Cursor) : FetchReply × Script :=
  let t := s.line.issued
  { s with line := { s.line with issued := t + 1 } }.takeOrWait t c

/-- An interrupt is looked at before anything pushed. -/
def resume (s : Script) (t : Ticket) : FetchReply × Script :=
  match s.line.find? t with
  | none => (.pending t, s)
  | some w =>
    if w.interrupted then (.ready (.failed .interrupted), { s with line := s.line.remove t })
    else if w.woken then { s with line := s.line.remove t }.takeOrWait t w.cursor
    else (.pending t, s)

def cancel (s : Script) (t : Ticket) : Script := { s with line := s.line.leave t }

def interrupt (s : Script) : Script := { s with line := s.line.interrupt }

def push (s : Script) (items : List FetchResult) : Script :=
  { s with items := s.items ++ items, line := s.line.wake }

end Script

instance : EventSource Script where
  name _ := "scripted"
  fetch := Script.fetch
  resume s t _ := s.resume t
  isAwake s t := s.line.isAwake t
  cancel := Script.cancel
  interrupt := Script.interrupt
  post _ _ _ := .error .unsupported
  close s := s
  push := Script.push
  backlog s := s.items.length + s.line.waiters.length + 1

end EventRelay
