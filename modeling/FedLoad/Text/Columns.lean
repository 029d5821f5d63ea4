/-!
# Columns

A column has a width in characters. A shorter text is filled up with blanks, a longer one is not
cut.
-/
namespace FedLoad.Text

def padRight (width : Nat) (s : String) : String :=
  s ++ String.ofList (List.replicate (width - s.length) ' ')

def padLeft (width : Nat) (s : String) : String :=
  String.ofList (List.replicate (width - s.length) ' ') ++ s

/-- A line of dashes. -/
def rule (width : Nat) : String := String.ofList (List.replicate width '-')

end FedLoad.Text
