import EventRelay.Subscriber
import EventRelay.Text.Utf8

namespace EventRelay

namespace Conduct

/-- What comes after `lead`, if the text begins with it. -/
def after? (lead text : String) : Option String :=
  if lead.toList.isPrefixOf text.toList then some (String.ofList (text.toList.drop lead.length)) else none

/-- The message of a panic that a text asks for. -/
def panic? (text : String) : Option String :=
  if text = "panic-str" then some "static panic"
  else if text = "panic-any" then some "unknown panic"
  else after? "panic:" text

/-- A panic is asked for by the payload: at once, or after the wait of a gated handler. -/
def written (gated : Bool) (e : Event) : Conduct :=
  match e.payload with
  | none => ⟨none, gated, none⟩
  | some bytes =>
    let text := Text.ofBytes bytes
    ⟨panic? text, gated, after? "late-panic:" text⟩

/-- A handler that does nothing more. -/
def plain (_ : Event) : Conduct := ⟨none, false, none⟩

end Conduct

end EventRelay
