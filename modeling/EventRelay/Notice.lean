namespace EventRelay

inductive NoticeKind
  | pollerStarted
  | pollerStopped
  | pollerInterrupted
  | fetchFailed
  | eventsSkipped
  | eventFired
  | eventDropped
  | queueDiscarded
  | handlerPanicked
deriving DecidableEq

/-- What a notice says. -/
structure NoticeBody where
  kind : NoticeKind
  event : Option String := none
  subscriber : Option String := none
  reason : Option String := none
  count : Option Nat := none
deriving DecidableEq

/-- A notice with its place in the order of all notices made. -/
structure Notice where
  seq : Nat
  body : NoticeBody
deriving DecidableEq

end EventRelay
