import AssetBroker.Log.Filter
import AssetBroker.Text.Debug

/-!
# Events on a console

A console writes each event it shows as one line: the time stamp, the level
right-aligned in five columns, the target and a colon, the message, and
then each field as `name=value`, all separated by single spaces. A text
field is quoted and escaped; a shown value is written as it is, so a value
that spans lines makes the line span them too.
-/

namespace AssetBroker

def padLeft (width : Nat) (s : String) : String :=
  String.ofList (List.replicate (width - s.length) ' ') ++ s

def FieldValue.console : FieldValue → String
  | .text s => debugQuote s
  | .shown s => s

/-- The console line of an event, ending with a line feed. -/
def Event.consoleLine (stamp : String) (e : Event) : String :=
  stamp ++ " " ++ padLeft 5 e.level.label ++ " " ++ e.component.target ++ ": " ++ e.message ++
    String.join (e.fields.map fun (name, v) => " " ++ name ++ "=" ++ v.console) ++ "\n"

namespace Log

/-- The lines a console with a filter writes for events. -/
def Filter.render (f : Filter) (stamp : String) (events : List Event) : String :=
  String.join ((events.filter f.shows).map (Event.consoleLine stamp))

end Log

end AssetBroker
