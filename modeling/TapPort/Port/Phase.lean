
namespace TapPort

inductive Phase where
  | created
  | configured
  | started
  | stopped
  | closed
deriving DecidableEq, Repr, Inhabited

namespace Phase

def text : Phase → String
  | created => "created"
  | configured => "configured"
  | started => "started"
  | stopped => "stopped"
  | closed => "closed"

-- The name of the phase in records and encoded reports.
def name : Phase → String
  | created => "Created"
  | configured => "Configured"
  | started => "Started"
  | stopped => "Stopped"
  | closed => "Closed"

def all : List Phase := [created, configured, started, stopped, closed]

-- The phase of a text, letter for letter.
def ofText? (s : String) : Option Phase := all.find? fun p => p.text == s

def unknownMessage (s : String) : String := "Bad PortState string: " ++ s

theorem ofText?_text (p : Phase) : ofText? p.text = some p := by
  cases p <;> decide

end Phase

end TapPort
