
namespace TapPort

def nextOutcome {α : Type} : List (Option α) → Option α × List (Option α)
  | [] => (none, [])
  | a :: rest => (a, rest)

end TapPort
